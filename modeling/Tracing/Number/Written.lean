import Tracing.Conversion
import Tracing.Fault
import Tracing.Text.DecimalDigit
/-!
Binary numbers that callers write as texts: digits of any script with a point and an exponent, or
the names of infinity and of what is not a number. White space at the ends does not count, and an
underscore may stand between two digits.
-/

set_option autoImplicit false
set_option relaxedAutoImplicit false

namespace Tracing

namespace Text

def withAsciiDigits (cs : List Char) : List Char :=
  cs.map fun c => ((digitValue? c).map fun d => Char.ofNat ('0'.toNat + d)).getD c

def withoutSeparators? (afterDigit : Bool) : List Char → Option (List Char)
  | [] => some []
  | '_' :: c :: rest =>
    if afterDigit && c.isDigit then (withoutSeparators? true rest).map (c :: ·) else none
  | c :: rest =>
    if c = '_' then none else (withoutSeparators? c.isDigit rest).map (c :: ·)

end Text

def Binary64.ofWritten? (cs : List Char) : Option Binary64 := do
  let digits ← Text.withoutSeparators? false (Text.withAsciiDigits (Text.trimList Text.isSpace cs))
  Conversion.unblankedReal? digits

/-- The characters of a value that may write a number: those of a text, and bytes one by one. -/
def Json.writtenChars? : Json → Option (List Char)
  | .text s => some s.toList
  | .bytes b => some (b.map fun byte => if byte < 0x80 then Char.ofNat byte.toNat else '\uFFFD')
  | _ => none

def Json.unwrittenMessage (v : Json) : String := "could not convert string to float: " ++ v.shown

/-- The binary number of a value: a number as it is, or what a text writes. -/
def Json.writtenReal (v : Json) : Except Fault Binary64 :=
  match v.toNumber?, v.writtenChars? with
  | some n, _ =>
    match n.toBinary64? with
    | some x => .ok x
    | none => .error .tooLarge
  | none, some cs =>
    match Binary64.ofWritten? cs with
    | some x => .ok x
    | none => .error (.invalidValue v.unwrittenMessage)
  | none, none => .error .wrongType

end Tracing
