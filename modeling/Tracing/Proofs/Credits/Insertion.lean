import Tracing.Proofs.Credits.Envelope
/-!
Asking a bucket more often than necessary. Counting credits at two readings one after the other
comes to the same as counting them at the later one alone, so a check that takes nothing out leaves
no trace: all others are answered, and leave the balance, as if it had not been made.
-/

set_option autoImplicit false
set_option relaxedAutoImplicit false

namespace Tracing

namespace TokenBucket

/-- A check of a run, which may be one that was put in beside those that the run is about. -/
structure Check where
  reading : Int
  cost : Rat
  extra : Bool := false
  deriving DecidableEq

/-- A check that was made, with its answer and the balance after it. -/
structure Entry where
  check : Check
  granted : Bool
  balance : Rat
  deriving DecidableEq

def Entry.IsIdle (e : Entry) : Prop := e.granted = false ∨ e.check.cost = 0

/-- What the checks of a run answer and leave. -/
def log? (b : TokenBucket Rat) : List Check → Option (List Entry)
  | [] => some []
  | c :: rest =>
    match b.check (.integer c.reading) c.cost with
    | some (granted, b) => (b.log? rest).map (⟨c, granted, b.balance⟩ :: ·)
    | none => none

variable {b b' : TokenBucket Rat} {last last' now later : Int}

/-- Credits that are counted twice are cut off at the capacity once more, which takes none of those
away that the later count would have left. -/
private theorem raised_raised (rate : 0 ≤ b.rate) (past : last ≤ now) (ahead : now ≤ later) :
    ({ b with balance := b.raised now last, lastTick := .integer now } :
      TokenBucket Rat).raised later now = b.raised later last := by
  have first : max 0 (now - last) = now - last := max_eq_right (by omega)
  have second : max 0 (later - now) = later - now := max_eq_right (by omega)
  have whole : max 0 (later - last) = later - last := max_eq_right (by omega)
  have passed : (0 : Rat) ≤ ((later - now : Int) : Rat) := by exact_mod_cast sub_nonneg.mpr ahead
  have income : 0 ≤ ((later - now : Int) : Rat) / 1000000000 * b.rate :=
    mul_nonneg (by positivity) rate
  have together : b.balance + ((now - last : Int) : Rat) / 1000000000 * b.rate +
      ((later - now : Int) : Rat) / 1000000000 * b.rate =
        b.balance + ((later - last : Int) : Rat) / 1000000000 * b.rate := by
    push_cast
    ring
  unfold raised
  dsimp only
  rw [first, second, whole, min_add, together, ← min_assoc,
    min_eq_left (le_add_of_nonneg_right income)]

/-- A bucket that was asked to no effect since another was last asked. Whatever is asked of the two
from then on, they have the same to spend. -/
structure Trails (b b' : TokenBucket Rat) (last last' : Int) : Prop where
  rate : b'.rate = b.rate
  capacity : b'.capacity = b.capacity
  ticked : b.lastTick = .integer last
  ticked' : b'.lastTick = .integer last'
  past : last ≤ last'
  raised : ∀ now, last' ≤ now → b'.raised now last' = b.raised now last

private theorem trails_refl (ticked : b.lastTick = .integer last) : Trails b b last last :=
  ⟨rfl, rfl, ticked, ticked, le_refl _, fun _ _ => rfl⟩

private theorem Trails.check (trails : Trails b b' last last') (ahead : last' ≤ now) (cost : Rat) :
    b'.check (.integer now) cost = b.check (.integer now) cost := by
  obtain ⟨rate, capacity, balance, tick⟩ := b
  obtain ⟨rate', capacity', balance', tick'⟩ := b'
  obtain ⟨rfl, rfl, ticked, ticked', -, raised⟩ := trails
  rw [check_integer ticked', check_integer ticked, raised now ahead]

private theorem Trails.idle (trails : Trails b b' last last') (rate : 0 ≤ b.rate)
    (ahead : last' ≤ now)
    {cost : Rat} {granted : Bool} {left : TokenBucket Rat}
    (checked : b'.check (.integer now) cost = some (granted, left))
    (idle : granted = false ∨ cost = 0) : Trails b left last now := by
  rw [check_integer trails.ticked' now cost] at checked
  obtain ⟨answer, rfl⟩ := Prod.mk.inj (Option.some_inj.mp checked)
  have unpaid : (if cost ≤ b'.raised now last' then cost else 0) = 0 := by
    rcases idle with refused | free
    · rw [refused, decide_eq_false_iff_not] at answer
      rw [if_neg answer]
    · rw [free, ite_self]
  rw [unpaid, sub_zero]
  refine ⟨trails.rate, trails.capacity, trails.ticked, rfl, trails.past.trans ahead, ?_⟩
  intro later further
  rw [raised_raised (trails.rate ▸ rate) ahead further]
  exact trails.raised later (ahead.trans further)

private theorem exists_check (ticked : b.lastTick = .integer last) (now : Int) (cost : Rat) :
    ∃ granted left, b.check (.integer now) cost = some (granted, left) ∧ left.rate = b.rate ∧
      left.lastTick = .integer now :=
  ⟨_, _, check_integer ticked now cost, rfl, rfl⟩

private theorem log?_cons {c : Check} {granted : Bool} {left : TokenBucket Rat} {rest : List Check}
    (checked : b.check (.integer c.reading) c.cost = some (granted, left)) :
    b.log? (c :: rest) = (left.log? rest).map (⟨c, granted, left.balance⟩ :: ·) := by
  rw [log?, checked]

private theorem exists_log? (checks : List Check) (ticked : b.lastTick = .integer last) :
    ∃ entries, b.log? checks = some entries ∧ entries.map Entry.check = checks := by
  induction checks generalizing b last with
  | nil => exact ⟨[], rfl, rfl⟩
  | cons c rest ih =>
    obtain ⟨granted, left, checked, -, ticked⟩ := exists_check ticked c.reading c.cost
    obtain ⟨entries, logged, same⟩ := ih ticked
    refine ⟨⟨c, granted, left.balance⟩ :: entries, ?_, by rw [List.map_cons, same]⟩
    rw [log?_cons checked, logged]
    rfl

private theorem Trails.log? (trails : Trails b b' last last') (rate : 0 ≤ b.rate)
    {checks : List Check}
    (ordered : (last' :: checks.map Check.reading).IsChain (· ≤ ·)) {entries : List Entry}
    (logged : b'.log? checks = some entries)
    (idle : ∀ e ∈ entries, e.check.extra = true → e.IsIdle) :
    b.log? (checks.filter (!·.extra)) = some (entries.filter (!·.check.extra)) := by
  induction checks generalizing b b' last last' entries with
  | nil =>
    cases logged
    rfl
  | cons c rest ih =>
    rw [List.map_cons, List.isChain_cons_cons] at ordered
    obtain ⟨ahead, ordered⟩ := ordered
    obtain ⟨granted, left, checked, sameRate, ticked⟩ :=
      exists_check trails.ticked' c.reading c.cost
    rw [log?_cons checked] at logged
    obtain ⟨others, continued, rfl⟩ := Option.map_eq_some_iff.mp logged
    obtain ⟨own, idle⟩ := List.forall_mem_cons.mp idle
    cases extra : c.extra with
    | true =>
      have later := ih (trails.idle rate ahead checked (own extra)) rate ordered continued idle
      rw [List.filter_cons_of_neg (by simp [extra]), List.filter_cons_of_neg (by simp [extra])]
      exact later
    | false =>
      have positive : 0 ≤ left.rate := sameRate ▸ trails.rate ▸ rate
      have later := ih (trails_refl ticked) positive ordered continued idle
      rw [trails.check ahead] at checked
      rw [List.filter_cons_of_pos (by simp [extra]), List.filter_cons_of_pos (by simp [extra]),
        log?_cons checked, later]
      rfl

/-- Every run of checks at readings that never go back is answered. Checks that are refused or ask
for nothing can be put in anywhere: without them, every other check has the answer and leaves the
balance that it has among them. -/
theorem log?_without_idle {start : Int} (ticked : b.lastTick = .integer start)
    (rate : 0 ≤ b.rate) {checks : List Check}
    (ordered : (start :: checks.map Check.reading).IsChain (· ≤ ·)) :
    ∃ entries, b.log? checks = some entries ∧ entries.map Entry.check = checks ∧
      ((∀ e ∈ entries, e.check.extra = true → e.IsIdle) →
        b.log? (checks.filter (!·.extra)) = some (entries.filter (!·.check.extra))) := by
  obtain ⟨entries, logged, same⟩ := exists_log? checks ticked
  exact ⟨entries, logged, same, (trails_refl ticked).log? rate ordered logged⟩

/-- Two checks that empty a bucket, and three beside them that take nothing out: one for too much
and one for nothing in between, and one for too much at the end. -/
def emptying : List Check :=
  [{ reading := 0, cost := 1 }, { reading := 250000000, cost := 2, extra := true },
    { reading := 500000000, cost := 0, extra := true }, { reading := 1000000000, cost := 2 },
    { reading := 1200000000, cost := 1, extra := true }]

theorem emptied_among_idle :
    let b : TokenBucket Rat := .full 1 2 (.integer 0)
    b.lastTick = .integer 0 ∧ 0 ≤ b.rate ∧
      ((0 : Int) :: emptying.map Check.reading).IsChain (· ≤ ·) ∧
      ∃ entries, b.log? emptying = some entries ∧
        (∀ e ∈ entries, e.check.extra = true → e.IsIdle) ∧
        b.log? [{ reading := 0, cost := 1 }, { reading := 1000000000, cost := 2 }] =
          some (entries.filter (!·.check.extra)) := by
  intro b
  have ticked : b.lastTick = .integer 0 := rfl
  have rate : 0 ≤ b.rate := zero_le_one
  have ordered : ((0 : Int) :: emptying.map Check.reading).IsChain (· ≤ ·) := by
    simp [emptying]
  obtain ⟨entries, logged, -, without⟩ := log?_without_idle ticked rate ordered
  have idle : ∀ e ∈ entries, e.check.extra = true → e.granted = false ∨ e.check.cost = 0 := by
    have answers : b.log? emptying = some (emptying.zipWith
        (fun c answer => ⟨c, answer.1, answer.2⟩)
          [(true, 1), (false, 5 / 4), (true, 3 / 2), (true, 0), (false, 1 / 5)]) := by
      decide +kernel
    cases Option.some_inj.mp (logged.symm.trans answers)
    decide
  exact ⟨ticked, rate, ordered, entries, logged, idle, without idle⟩

end TokenBucket

end Tracing
