import Tracing.Number.Binary64
/-!
The rationals with both infinities, the order in which all numbers are compared exactly. Whatever
is not a number has no place on this line, so every comparison with it is false.
-/

set_option autoImplicit false
set_option relaxedAutoImplicit false

namespace Tracing

/-- A point of the rational line closed at both ends. -/
inductive Extended where
  | negInfinity
  | value (q : Rat)
  | posInfinity
  deriving DecidableEq

namespace Extended

/-- The strict order of the line. -/
def blt : Extended → Extended → Bool
  | negInfinity, negInfinity => false
  | negInfinity, _ => true
  | _, negInfinity => false
  | posInfinity, _ => false
  | value _, posInfinity => true
  | value p, value q => p < q

theorem blt_irrefl (a : Extended) : a.blt a = false := by
  cases a <;> simp [blt]

theorem blt_asymm {a b : Extended} (h : a.blt b = true) : b.blt a = false := by
  cases a <;> cases b <;>
    simp_all only [blt, reduceCtorEq, decide_eq_true_eq, decide_eq_false_iff_not]
  exact Rat.not_lt.mpr (Rat.le_of_lt h)

theorem blt_trichotomy (a b : Extended) : a.blt b = true ∨ a = b ∨ b.blt a = true := by
  cases a <;> cases b <;> simp [blt]
  rename_i p q
  by_cases h : p < q
  · exact Or.inl h
  · by_cases e : p = q
    · exact Or.inr (Or.inl e)
    · exact Or.inr (Or.inr (Rat.not_le.mp fun le => e (Rat.le_antisymm le (Rat.not_lt.mp h))))

end Extended

namespace Binary64

def extended? : Binary64 → Option Extended
  | nan => none
  | infinite negative => some (if negative then .negInfinity else .posInfinity)
  | finite negative m e _ => some (.value (exact negative m e))

/-- Compares by exact value; false when either side is not a number. -/
def lt (x y : Binary64) : Bool :=
  match x.extended?, y.extended? with
  | some a, some b => a.blt b
  | _, _ => false

/-- Compares by exact value; false when either side is not a number. -/
def eq (x y : Binary64) : Bool :=
  match x.extended?, y.extended? with
  | some a, some b => a == b
  | _, _ => false

/-- Compares by exact value; false when either side is not a number. -/
def le (x y : Binary64) : Bool := x.lt y || x.eq y

/-- The smaller of two, the first unless the second is strictly below it. -/
def least (x y : Binary64) : Binary64 := if y.lt x then y else x

/-- The greater of two, the first unless the second is strictly above it. -/
def greatest (x y : Binary64) : Binary64 := if x.lt y then y else x

end Binary64

end Tracing
