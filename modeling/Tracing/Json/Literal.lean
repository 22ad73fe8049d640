import Tracing.Json.Token
import Tracing.Text.Unprintable
/-!
Values as messages show them: texts between single quotes, or between double quotes where that
saves an escape, with escapes for what has no visible form.
-/

set_option autoImplicit false
set_option relaxedAutoImplicit false

namespace Tracing

namespace Text

/-- A number in hexadecimal with at least `width` digits. -/
def hexPadded (width n : Nat) : List Char :=
  let ds := Nat.toDigits 16 n
  List.replicate (width - ds.length) '0' ++ ds

/-- A character as it stands between the given quotes. -/
def shownChar (quote c : Char) : List Char :=
  if c = quote || c = '\\' then ['\\', c]
  else
    match c with
    | '\n' => ['\\', 'n']
    | '\r' => ['\\', 'r']
    | '\t' => ['\\', 't']
    | _ =>
      if !isUnprintable c then [c]
      else if c.toNat < 0x100 then '\\' :: 'x' :: hexPadded 2 c.toNat
      else if c.toNat < 0x10000 then '\\' :: 'u' :: hexPadded 4 c.toNat
      else '\\' :: 'U' :: hexPadded 8 c.toNat

/-- The quote that encloses a text: a double quote only where the text has a single one and no
double one. -/
def enclosing (cs : List Char) : Char :=
  if cs.contains '\'' && !cs.contains '"' then '"' else '\''

/-- The bytes that pairs of hexadecimal digits write; blanks may stand between pairs. -/
def bytesOfHex : List Char → List UInt8
  | ' ' :: rest => bytesOfHex rest
  | a :: b :: rest =>
    match Json.hexValue? a, Json.hexValue? b with
    | some x, some y => UInt8.ofNat (x * 16 + y) :: bytesOfHex rest
    | _, _ => []
  | _ => []

def hexOfBytes (bytes : List UInt8) : String :=
  String.ofList (bytes.flatMap fun b => hexPadded 2 b.toNat)

def shownByte (quote : Char) (b : UInt8) : List Char :=
  let c := Char.ofNat b.toNat
  if c = quote || c = '\\' then ['\\', c]
  else
    match c with
    | '\n' => ['\\', 'n']
    | '\r' => ['\\', 'r']
    | '\t' => ['\\', 't']
    | _ =>
      if 0x20 ≤ b.toNat && b.toNat < 0x7F then [c] else '\\' :: 'x' :: hexPadded 2 b.toNat

/-- Bytes as messages show them: ASCII as it is, and a letter in front. -/
def shownBytes (bytes : List UInt8) : String :=
  let q := enclosing (bytes.map fun b => Char.ofNat b.toNat)
  String.ofList ('b' :: q :: bytes.flatMap (shownByte q) ++ [q])

def shown (s : String) : String :=
  let cs := s.toList
  let q := enclosing cs
  String.ofList (q :: cs.flatMap (shownChar q) ++ [q])

end Text

mutual

def Json.shown : Json → String
  | .null => "None"
  | .truth b => if b then "True" else "False"
  | .integer n => toString n
  | .real x => x.text
  | .text s => Text.shown s
  | .bytes b => Text.shownBytes b
  | .halfText | .misnamed => ""
  | .array items => "[" ++ String.intercalate ", " (Json.shownItems items) ++ "]"
  | .object members => "\x7b" ++ String.intercalate ", " (Json.shownMembers members) ++ "\x7d"

def Json.shownItems : List Json → List String
  | [] => []
  | v :: rest => v.shown :: Json.shownItems rest

def Json.shownMembers : List (String × Json) → List String
  | [] => []
  | (k, v) :: rest => (Text.shown k ++ ": " ++ v.shown) :: Json.shownMembers rest

end

/-- A value in running text: a text stands for itself. -/
def Json.plain : Json → String
  | .text s => s
  | v => v.shown

end Tracing
