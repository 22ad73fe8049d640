import Tracing.Number.Binary64
/-!
Decimal text of binary numbers. Writing takes the fewest digits that read back as the number, the
nearest such digits to it, and lays them out as a `FloatNotation` says; reading rounds the exact
decimal to the nearest number.
-/

set_option autoImplicit false
set_option relaxedAutoImplicit false

namespace Tracing

/-- The number `digits * 10 ^ exponent`. -/
structure Decimal where
  digits : Nat
  exponent : Int
  deriving DecidableEq

/-- The digits of a natural number in base ten, most significant first. -/
def decimalDigits (n : Nat) : List Char := Nat.toDigits 10 n

namespace Decimal

/-- The same number without trailing zero digits; `fuel` bounds how many are removed. -/
def strip : Nat → Decimal → Decimal
  | 0, d => d
  | fuel + 1, d =>
    if d.digits ≠ 0 ∧ d.digits % 10 = 0 then strip fuel ⟨d.digits / 10, d.exponent + 1⟩ else d

/-- The nearest binary number. Magnitudes outside the range of finite nonzero numbers are decided
by the number of digits alone, so a huge exponent costs nothing. -/
def round (negative : Bool) (d : Decimal) : Binary64 :=
  if d.digits = 0 then .zero negative else
  let point := (decimalDigits d.digits).length + d.exponent
  if point < -330 then .zero negative
  else if 310 < point then .infinite negative
  else if 0 ≤ d.exponent then .ofRatio negative (d.digits * Nat.pow 10 d.exponent.toNat) 1
  else .ofRatio negative d.digits (Nat.pow 10 (-d.exponent).toNat)

end Decimal

namespace Binary64

/-- The exact decimal of the magnitude `m * 2 ^ e`. -/
def exactDecimal (m : Nat) (e : Int) : Decimal :=
  if 0 ≤ e then ⟨m <<< e.toNat, 0⟩ else ⟨m * Nat.pow 5 (-e).toNat, e⟩

/-- The decimals of `length - drop` leading digits on either side of an exact decimal. -/
def neighbours (d : Decimal) (drop : Nat) : Decimal × Decimal :=
  let lower := d.digits / Nat.pow 10 drop
  (⟨lower, d.exponent + drop⟩, ⟨lower + 1, d.exponent + drop⟩)

/-- The neighbour that reads back as the magnitude of `x`, the nearer where both do. -/
def readsBack (x : Binary64) (d : Decimal) (drop : Nat) : Option Decimal :=
  let (lower, upper) := neighbours d drop
  let unit := Nat.pow 10 drop
  let rest := 2 * (d.digits % unit)
  match decide (lower.round false = x), decide (upper.round false = x) with
  | true, true =>
    if rest < unit ∨ (rest = unit ∧ lower.digits % 2 = 0) then some lower else some upper
  | true, false => some lower
  | false, true => some upper
  | false, false => none

/-- Drops fewer and fewer digits until what is left reads back; with none dropped the decimal is
exact. -/
def searchShortest (x : Binary64) (d : Decimal) : Nat → Decimal
  | 0 => d
  | drop + 1 =>
    match readsBack x d (drop + 1) with
    | some found => found
    | none => searchShortest x d drop

/-- The decimal of fewest digits that reads back as the magnitude of a finite number. -/
def shortest : Binary64 → Decimal
  | finite _ m e h =>
    let d := exactDecimal m e
    let length := (decimalDigits d.digits).length
    (searchShortest (finite false m e h) d (length - 1)).strip length
  | _ => ⟨0, 0⟩

end Binary64

/-- How a binary number is written: the decimal exponents that are written without one, how many
digits an exponent has at least, and the texts of what has no digits. -/
structure FloatNotation where
  positionalFrom : Int
  positionalBelow : Int
  exponentWidth : Nat
  nanText : String := "nan"
  infiniteText : String := "inf"

namespace FloatNotation

def padded (width n : Nat) : List Char :=
  let ds := decimalDigits n
  List.replicate (width - ds.length) '0' ++ ds

/-- The digits of a magnitude, laid out around the point or with an exponent. -/
def layout (style : FloatNotation) (d : Decimal) : List Char :=
  let ds := decimalDigits d.digits
  let point : Int := ds.length + d.exponent
  let exponent := point - 1
  if style.positionalFrom ≤ exponent ∧ exponent < style.positionalBelow then
    if point ≤ 0 then '0' :: '.' :: List.replicate (-point).toNat '0' ++ ds
    else if ds.length ≤ point.toNat then
      ds ++ List.replicate (point.toNat - ds.length) '0' ++ ['.', '0']
    else ds.take point.toNat ++ '.' :: ds.drop point.toNat
  else
    let mantissa :=
      match ds with
      | [] => []
      | [d] => [d]
      | d :: rest => d :: '.' :: rest
    let sign := if exponent < 0 then '-' else '+'
    mantissa ++ 'e' :: sign :: padded style.exponentWidth exponent.natAbs

def write (style : FloatNotation) : Binary64 → String
  | .nan => style.nanText
  | .infinite negative => if negative then "-" ++ style.infiniteText else style.infiniteText
  | .finite negative m e h =>
    let magnitude :=
      if m = 0 then ['0', '.', '0'] else layout style (Binary64.shortest (.finite negative m e h))
    String.ofList (if negative then '-' :: magnitude else magnitude)

/-- Numbers in descriptions, messages and settings files: positional from a ten-thousandth to
below ten to the sixteenth, with an exponent of at least two digits elsewhere. -/
def message : FloatNotation := ⟨-4, 16, 2, "nan", "inf"⟩

/-- Numbers in strategy documents: positional from a hundred-thousandth, and the exponent has no
leading zero. -/
def document : FloatNotation := ⟨-5, 16, 1, "NaN", "Infinity"⟩

end FloatNotation

def Binary64.text (x : Binary64) : String := FloatNotation.message.write x

end Tracing
