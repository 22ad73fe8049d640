import Mathlib.Algebra.BigOperators.Intervals
import Mathlib.Algebra.Order.BigOperators.Group.Finset
import Mathlib.Tactic
import Tracing.TokenBucket
/-!
What a bucket of credits grants over a whole run. The bucket keeps one number, cut off at its
capacity with every count; that number is the least of what all spans of the run up to now would
have left of a full bucket. A check is therefore granted exactly when no span is asked for more
than the capacity and what came in during it.
-/

set_option autoImplicit false
set_option relaxedAutoImplicit false

namespace Tracing

namespace TokenBucket

open Finset

/-- A run of checks, numbered from one. The bucket is made at the reading zero; what is asked of
number zero is not looked at. -/
structure Course where
  rate : Rat
  capacity : Rat
  reading : Nat → Int
  cost : Nat → Rat

namespace Course

def bucket? (r : Course) : Nat → Option (TokenBucket Rat)
  | 0 => some (.full r.rate r.capacity (.integer (r.reading 0)))
  | n + 1 => (r.bucket? n).bind fun b =>
      (b.check (.integer (r.reading (n + 1))) (r.cost (n + 1))).map Prod.snd

def granted? (r : Course) : Nat → Option Bool
  | 0 => none
  | n + 1 => (r.bucket? n).bind fun b =>
      (b.check (.integer (r.reading (n + 1))) (r.cost (n + 1))).map Prod.fst

/-- The seconds that passed from one check to another, a step back of the clock counting as none. -/
def elapsed (r : Course) (k n : Nat) : Rat :=
  ∑ i ∈ Ioc k n, (max 0 (r.reading i - r.reading (i - 1)) : Int) / 1000000000

/-- What was paid from one check up to another, the latter not included. -/
def paid (r : Course) (k n : Nat) : Rat :=
  ∑ i ∈ Ico (max k 1) n, if r.granted? i = some true then r.cost i else 0

/-- What a bucket full at one check would have left after the payments up to another. -/
def left (r : Course) (k n : Nat) : Rat := r.capacity + r.rate * r.elapsed k n - r.paid k (n + 1)

end Course

section Counting

private theorem since?_integer (m n : Int) :
    (Number.integer m).since? (.integer n) = some (.integer (max 0 (m - n))) := by
  have compared : (Number.integer 0).lt (.integer (m - n)) = decide (0 < m - n) := by
    simp [Number.lt, Number.extended?, Extended.blt]
  simp only [Number.since?, Number.sub?, Number.toInt?, Option.map_some, compared,
    decide_eq_true_eq]
  split
  case isTrue above => rw [max_eq_right above.le]
  case isFalse below => rw [max_eq_left (not_lt.mp below)]

/-- The balance once the credits of some seconds are counted. -/
def raised (b : TokenBucket Rat) (now last : Int) : Rat :=
  min b.capacity (b.balance + (max 0 (now - last) : Int) / 1000000000 * b.rate)

/-- A check between whole readings has an answer: it pays what the counted balance covers. -/
theorem check_integer {b : TokenBucket Rat} {last : Int} (ticked : b.lastTick = .integer last)
    (now : Int) (cost : Rat) :
    b.check (.integer now) cost =
      some (decide (cost ≤ b.raised now last),
        { b with
          balance := b.raised now last - if cost ≤ b.raised now last then cost else 0
          lastTick := .integer now }) := by
  have counted : b.accrue (.integer now) =
      some { b with balance := b.raised now last, lastTick := .integer now } := by
    unfold accrue
    rw [ticked, since?_integer]
    have cut : ∀ x y : Rat, (if Credit.lt x y = true then x else y) = min y x := by
      intro x y
      show (if decide (x < y) = true then x else y) = min y x
      by_cases less : x < y
      · simp [less, less.le]
      · simp [less, not_lt.mp less]
    simp only [Option.bind_some, Credit.seconds?, Number.toInt?, Option.map_some, cut]
    rfl
  unfold check
  rw [counted, Option.map_some]
  show some (if decide (cost ≤ b.raised now last) = true then _ else _) = _
  by_cases covered : cost ≤ b.raised now last
  · simp only [covered, decide_true, if_true]
    rfl
  · simp only [covered, decide_false, Bool.false_eq_true, if_false, sub_zero]

end Counting

namespace Course

variable {r : Course}

private theorem elapsed_self (n : Nat) : r.elapsed n n = 0 := by simp [elapsed]

private theorem elapsed_succ {k n : Nat} (h : k ≤ n) :
    r.elapsed k (n + 1) =
      r.elapsed k n + (max 0 (r.reading (n + 1) - r.reading n) : Int) / 1000000000 := by
  unfold elapsed
  rw [Finset.sum_Ioc_succ_top h, Nat.add_sub_cancel]

private theorem paid_of_le {k n : Nat} (h : n ≤ max k 1) : r.paid k n = 0 := by
  unfold paid
  rw [Ico_eq_empty_of_le h, sum_empty]

private theorem paid_succ {k n : Nat} (h : k ≤ n + 1) :
    r.paid k (n + 2) =
      r.paid k (n + 1) + if r.granted? (n + 1) = some true then r.cost (n + 1) else 0 := by
  unfold paid
  rw [sum_Ico_succ_top (max_le h (Nat.succ_pos n))]

/-- A bucket in the course of a run: its balance is the least of what the spans up to now leave. -/
structure Keeps (r : Course) (n : Nat) (b : TokenBucket Rat) : Prop where
  rate : b.rate = r.rate
  capacity : b.capacity = r.capacity
  ticked : b.lastTick = .integer (r.reading n)
  nonneg : 0 ≤ b.balance
  within : b.balance ≤ b.capacity
  below : ∀ k ≤ n, b.balance ≤ r.left k n
  attained : ∃ k ≤ n, b.balance = r.left k n

private theorem keeps_full (capacity : 0 ≤ r.capacity) :
    Keeps r 0 (.full r.rate r.capacity (.integer (r.reading 0))) := by
  have start : r.left 0 0 = r.capacity := by
    unfold left
    rw [elapsed_self, paid_of_le (by simp), mul_zero, add_zero, sub_zero]
  refine ⟨rfl, rfl, rfl, capacity, le_refl _, ?_, 0, le_refl 0, start.symm⟩
  intro k h
  rw [Nat.le_zero.mp h, start]
  exact le_refl _

private theorem Keeps.raised {n : Nat} {b : TokenBucket Rat} (keeps : Keeps r n b) :
    (∀ k ≤ n + 1, b.raised (r.reading (n + 1)) (r.reading n) ≤
        r.capacity + r.rate * r.elapsed k (n + 1) - r.paid k (n + 1)) ∧
      ∃ k ≤ n + 1, b.raised (r.reading (n + 1)) (r.reading n) =
        r.capacity + r.rate * r.elapsed k (n + 1) - r.paid k (n + 1) := by
  have latest : r.capacity + r.rate * r.elapsed (n + 1) (n + 1) - r.paid (n + 1) (n + 1) =
      r.capacity := by
    rw [elapsed_self, paid_of_le (le_max_left _ _), mul_zero, add_zero, sub_zero]
  have earlier : ∀ k ≤ n, r.capacity + r.rate * r.elapsed k (n + 1) - r.paid k (n + 1) =
      r.left k n + (max 0 (r.reading (n + 1) - r.reading n) : Int) / 1000000000 * b.rate := by
    intro k h
    rw [elapsed_succ h, left, keeps.rate]
    ring
  unfold TokenBucket.raised
  constructor
  · intro k h
    rcases Nat.le_succ_iff.mp h with h | rfl
    · rw [earlier k h]
      exact (min_le_right _ _).trans (add_le_add_left (keeps.below k h) _)
    · rw [latest, ← keeps.capacity]
      exact min_le_left _ _
  · rcases min_choice b.capacity (b.balance +
        (max 0 (r.reading (n + 1) - r.reading n) : Int) / 1000000000 * b.rate) with cut | uncut
    · exact ⟨n + 1, le_refl _, by rw [cut, latest, keeps.capacity]⟩
    · obtain ⟨k, h, same⟩ := keeps.attained
      exact ⟨k, Nat.le_succ_of_le h, by rw [uncut, earlier k h, same]⟩

private theorem Keeps.raised_nonneg {n : Nat} {b : TokenBucket Rat} (keeps : Keeps r n b)
    (rate : 0 ≤ r.rate) : 0 ≤ b.raised (r.reading (n + 1)) (r.reading n) := by
  have capacity : 0 ≤ b.capacity := keeps.nonneg.trans keeps.within
  have passed : 0 ≤ ((max 0 (r.reading (n + 1) - r.reading n) : Int) : Rat) := by
    exact_mod_cast le_max_left 0 _
  have income : 0 ≤ ((max 0 (r.reading (n + 1) - r.reading n) : Int) : Rat) / 1000000000 * b.rate :=
    mul_nonneg (by positivity) (keeps.rate ▸ rate)
  exact le_min capacity (add_nonneg keeps.nonneg income)

private theorem Keeps.next {n : Nat} {b : TokenBucket Rat} (keeps : Keeps r n b)
    (there : r.bucket? n = some b) (rate : 0 ≤ r.rate) (cost : 0 ≤ r.cost (n + 1)) :
    ∃ granted b', r.granted? (n + 1) = some granted ∧ r.bucket? (n + 1) = some b' ∧
      (granted = true ↔ ∀ k ≤ n + 1,
        r.paid k (n + 1) + r.cost (n + 1) ≤ r.capacity + r.rate * r.elapsed k (n + 1)) ∧
      Keeps r (n + 1) b' := by
  obtain ⟨below, k₀, h₀, least⟩ := keeps.raised
  have checked := check_integer keeps.ticked (r.reading (n + 1)) (r.cost (n + 1))
  have answer : r.granted? (n + 1) =
      some (decide (r.cost (n + 1) ≤ b.raised (r.reading (n + 1)) (r.reading n))) := by
    simp only [granted?, there, Option.bind_some, checked, Option.map_some]
  have bucket : r.bucket? (n + 1) = some { b with
      balance := b.raised (r.reading (n + 1)) (r.reading n) -
        if r.cost (n + 1) ≤ b.raised (r.reading (n + 1)) (r.reading n) then r.cost (n + 1) else 0
      lastTick := .integer (r.reading (n + 1)) } := by
    simp only [bucket?, there, Option.bind_some, checked, Option.map_some]
  have nonneg := keeps.raised_nonneg rate
  have within : b.raised (r.reading (n + 1)) (r.reading n) ≤ b.capacity := min_le_left _ _
  generalize b.raised (r.reading (n + 1)) (r.reading n) = counted at *
  have covered : r.cost (n + 1) ≤ counted ↔ ∀ k ≤ n + 1,
      r.paid k (n + 1) + r.cost (n + 1) ≤ r.capacity + r.rate * r.elapsed k (n + 1) := by
    constructor
    · intro enough k h
      linarith [below k h]
    · intro enough
      linarith [enough k₀ h₀]
  have pays : ∀ k ≤ n + 1, r.left k (n + 1) =
      r.capacity + r.rate * r.elapsed k (n + 1) - r.paid k (n + 1) -
        if r.cost (n + 1) ≤ counted then r.cost (n + 1) else 0 := by
    intro k h
    simp only [left, paid_succ h, answer, Option.some_inj, decide_eq_true_eq]
    ring
  refine ⟨_, _, answer, bucket, by rw [decide_eq_true_eq, covered], keeps.rate, keeps.capacity,
    rfl, ?_, ?_, ?_, k₀, h₀, ?_⟩
  · dsimp only
    split
    case isTrue enough => exact sub_nonneg.mpr enough
    case isFalse => rwa [sub_zero]
  · dsimp only
    split
    · linarith
    · rwa [sub_zero]
  · intro k h
    rw [pays k h]
    exact sub_le_sub_right (below k h) _
  · rw [pays k₀ h₀, least]

private theorem keeps_bucket (rate : 0 ≤ r.rate) (capacity : 0 ≤ r.capacity)
    (cost : ∀ n, 0 ≤ r.cost (n + 1)) (n : Nat) : ∃ b, r.bucket? n = some b ∧ Keeps r n b := by
  induction n with
  | zero => exact ⟨_, rfl, keeps_full capacity⟩
  | succ n ih =>
    obtain ⟨b, there, keeps⟩ := ih
    obtain ⟨granted, b', -, next, -, kept⟩ := keeps.next there rate (cost n)
    exact ⟨b', next, kept⟩

/-- Every check has an answer, and is granted if and only if what is paid in each span up to it,
with what it asks for, is no more than a full bucket and what comes in during the span. No span
pays out more than that, and the balance never leaves the range from nothing to the capacity. -/
theorem granted_iff_within_envelope (rate : 0 ≤ r.rate) (capacity : 0 ≤ r.capacity)
    (cost : ∀ n, 0 ≤ r.cost (n + 1)) (n : Nat) :
    (∃ granted, r.granted? (n + 1) = some granted ∧
      (granted = true ↔ ∀ k ≤ n + 1,
        r.paid k (n + 1) + r.cost (n + 1) ≤ r.capacity + r.rate * r.elapsed k (n + 1))) ∧
      (∀ k ≤ n, r.paid k (n + 1) ≤ r.capacity + r.rate * r.elapsed k n) ∧
      ∃ b, r.bucket? n = some b ∧ 0 ≤ b.balance ∧ b.balance ≤ r.capacity := by
  obtain ⟨b, there, keeps⟩ := keeps_bucket rate capacity cost n
  obtain ⟨granted, b', answer, -, exactly, -⟩ := keeps.next there rate (cost n)
  refine ⟨⟨granted, answer, exactly⟩, fun k h => ?_, b, there, keeps.nonneg, ?_⟩
  · have remains : 0 ≤ r.left k n := keeps.nonneg.trans (keeps.below k h)
    exact sub_nonneg.mp remains
  · exact keeps.capacity ▸ keeps.within

/-- Five checks of one credit each at a bucket for two that fills at one a second, by a clock that
is set back by half a second before the fourth. -/
def setBack : Course where
  rate := 1
  capacity := 2
  reading := fun n => if n = 3 ∨ n = 5 then 500000000 else 0
  cost := fun _ => 1

theorem half_second_counted_twice :
    0 ≤ setBack.rate ∧ 0 ≤ setBack.capacity ∧ (∀ n, 0 ≤ setBack.cost (n + 1)) ∧
      setBack.granted? 4 = some false ∧ setBack.granted? 5 = some true ∧
      (∀ k ≤ 5, setBack.paid k 5 + setBack.cost 5 ≤
        setBack.capacity + setBack.rate * setBack.elapsed k 5) ∧
      ∃ b, setBack.bucket? 4 = some b ∧ 0 ≤ b.balance ∧ b.balance ≤ setBack.capacity := by
  have rate : 0 ≤ setBack.rate := by decide
  have capacity : 0 ≤ setBack.capacity := by decide
  have cost : ∀ n, 0 ≤ setBack.cost (n + 1) := fun _ => zero_le_one
  obtain ⟨⟨granted, answer, exactly⟩, -, bucket⟩ :=
    granted_iff_within_envelope rate capacity cost 4
  have fourth : setBack.granted? 4 = some false := by decide +kernel
  have fifth : setBack.granted? 5 = some true := by decide +kernel
  have paid : granted = true := Option.some_inj.mp (answer.symm.trans fifth)
  exact ⟨rate, capacity, cost, fourth, fifth, exactly.mp paid, bucket⟩

end Course

end TokenBucket

end Tracing
