import Tracing.Number.Extended
import Tracing.Number.Decimal
/-!
Numbers as callers give them: integers of any size, truth values that count as one and zero, and
binary numbers. They are compared by exact value and shown the way they were given.
-/

set_option autoImplicit false
set_option relaxedAutoImplicit false

namespace Tracing

/-- A number as given. -/
inductive Number where
  | integer (n : Int)
  | truth (b : Bool)
  | real (x : Binary64)
  deriving DecidableEq

namespace Number

instance : Inhabited Number := ⟨integer 0⟩

def extended? : Number → Option Extended
  | integer n => some (.value n)
  | truth b => some (.value (if b then 1 else 0))
  | real x => x.extended?

/-- Compares by exact value; false when either side is not a number. -/
def lt (x y : Number) : Bool :=
  match x.extended?, y.extended? with
  | some a, some b => a.blt b
  | _, _ => false

/-- Compares by exact value; false when either side is not a number. -/
def eq (x y : Number) : Bool :=
  match x.extended?, y.extended? with
  | some a, some b => a == b
  | _, _ => false

/-- Compares by exact value; false when either side is not a number. -/
def le (x y : Number) : Bool := x.lt y || x.eq y

/-- The nearest binary number; none for an integer beyond the largest finite one. -/
def toBinary64? : Number → Option Binary64
  | integer n => Binary64.ofInt? n
  | truth b => some (if b then .one else .zero false)
  | real x => some x

def toInt? : Number → Option Int
  | integer n => some n
  | truth b => some (if b then 1 else 0)
  | real _ => none

/-- The sum: exact between integers, rounded as soon as one side is a binary number. -/
def add? (x y : Number) : Option Number :=
  match x.toInt?, y.toInt? with
  | some m, some n => some (integer (m + n))
  | _, _ => do
    let a ← x.toBinary64?
    let b ← y.toBinary64?
    return real (a + b)

/-- The difference: exact between integers, rounded as soon as one side is a binary number. -/
def sub? (x y : Number) : Option Number :=
  match x.toInt?, y.toInt? with
  | some m, some n => some (integer (m - n))
  | _, _ => do
    let a ← x.toBinary64?
    let b ← y.toBinary64?
    return real (a - b)

/-- How far one number is past another: their difference, or zero where that is not above zero. -/
def since? (x y : Number) : Option Number :=
  (x.sub? y).map fun d => if (integer 0).lt d then d else integer 0

def text : Number → String
  | integer n => toString n
  | truth b => if b then "True" else "False"
  | real x => x.text

/-- Whether a number is neither zero nor false; what is not a number counts as present. -/
def isNonzero (x : Number) : Bool := !x.eq (integer 0)

end Number

end Tracing
