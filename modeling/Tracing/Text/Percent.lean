import Tracing.Json.Token
import Tracing.Text.Utf8
/-!
Percent escapes: a character outside a safe class is written as its bytes, each as a percent sign
and two hexadecimal digits.
-/

set_option autoImplicit false
set_option relaxedAutoImplicit false

namespace Tracing.Text

def hexDigit (n : Nat) : Char := if n < 10 then Char.ofNat (0x30 + n) else Char.ofNat (0x37 + n)

def percentChar (c : Char) : List Char :=
  (bytesOf c).flatMap fun b => ['%', hexDigit (b.toNat / 16), hexDigit (b.toNat % 16)]

/-- Letters, digits and the four marks that never need an escape. -/
def isUnreserved (c : Char) : Bool :=
  c.isAlphanum || c = '-' || c = '.' || c = '_' || c = '~'

/-- Escapes what is neither unreserved nor safe; escapes that are there already stay. -/
def percentEncode (safe : Char → Bool) : List Char → List Char
  | [] => []
  | '%' :: a :: b :: rest =>
    if (Json.hexValue? a).isSome && (Json.hexValue? b).isSome then
      '%' :: a :: b :: percentEncode safe rest
    else (if safe '%' then ['%'] else percentChar '%') ++ percentEncode safe (a :: b :: rest)
  | c :: rest =>
    (if isUnreserved c || safe c then [c] else percentChar c) ++ percentEncode safe rest

/-- A form value: a space as a plus sign, all else that is not unreserved escaped. -/
def formEncode (cs : List Char) : List Char :=
  cs.flatMap fun c => if c = ' ' then ['+'] else if isUnreserved c then [c] else percentChar c

def percentDecode : List Char → List UInt8
  | [] => []
  | '%' :: a :: b :: rest =>
    match Json.hexValue? a, Json.hexValue? b with
    | some x, some y => UInt8.ofNat (x * 16 + y) :: percentDecode rest
    | _, _ => bytesOf '%' ++ percentDecode (a :: b :: rest)
  | c :: rest => bytesOf c ++ percentDecode rest

def sextet (n : Nat) : Char :=
  if n < 26 then Char.ofNat (0x41 + n)
  else if n < 52 then Char.ofNat (0x61 + n - 26)
  else if n < 62 then Char.ofNat (0x30 + n - 52)
  else if n = 62 then '+' else '/'

/-- Bytes in groups of 6 bits, filled up with equals signs. -/
def base64 : List UInt8 → List Char
  | [] => []
  | [a] => [sextet (a.toNat / 4), sextet (a.toNat % 4 * 16), '=', '=']
  | [a, b] =>
    [sextet (a.toNat / 4), sextet (a.toNat % 4 * 16 + b.toNat / 16), sextet (b.toNat % 16 * 4), '=']
  | a :: b :: c :: rest =>
    sextet (a.toNat / 4) :: sextet (a.toNat % 4 * 16 + b.toNat / 16) ::
      sextet (b.toNat % 16 * 4 + c.toNat / 64) :: sextet (c.toNat % 64) :: base64 rest

end Tracing.Text
