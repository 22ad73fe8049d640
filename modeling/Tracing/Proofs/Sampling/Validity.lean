import Mathlib.Tactic
import Tracing.Proofs.Sampling.Equality
import Tracing.Sampling.Remote
/-!
The numbers of a strategy that was read are shares and limits: a document with any other number,
or with none in the place of one, is refused. Samplers are made from such numbers without fail.
-/

set_option autoImplicit false
set_option relaxedAutoImplicit false

namespace Tracing

namespace Binary64

/-- A number of traces per second: no less than zero. -/
def IsLimit (x : Binary64) : Prop := (Binary64.zero false).le x = true

/-- A share of traces: from zero to one. -/
def IsShare (x : Binary64) : Prop := ((Binary64.zero false).le x && x.le .one) = true

theorem extended?_zero : (zero false).extended? = some (.value 0) := rfl

theorem extended?_one : one.extended? = some (.value 1) := by decide +kernel

theorem isLimit_iff {x : Binary64} :
    x.IsLimit ↔ ∃ a, x.extended? = some a ∧ a.blt (.value 0) = false := by
  unfold IsLimit le lt eq
  rw [extended?_zero]
  cases x.extended? with
  | none => simp
  | some a =>
    rcases Extended.blt_trichotomy (.value 0) a with above | rfl | below
    · simp [above, Extended.blt_asymm above]
    · simp [Extended.blt_irrefl]
    · have differ : Extended.value 0 ≠ a := by
        rintro rfl
        simp [Extended.blt_irrefl] at below
      simp [below, Extended.blt_asymm below, differ]

theorem IsShare.isLimit {x : Binary64} (h : x.IsShare) : x.IsLimit := by
  unfold IsShare at h
  exact (Bool.and_eq_true_iff.mp h).1

theorem IsLimit.eq_refl {x : Binary64} (h : x.IsLimit) : x.eq x = true := by
  obtain ⟨a, e, -⟩ := isLimit_iff.mp h
  exact eq_iff.mpr ⟨a, e, e⟩

end Binary64

theorem Rate.create_of_isShare {x : Binary64} (h : x.IsShare) :
    Rate.create (.real x) = .ok ⟨x, h⟩ := by
  unfold Binary64.IsShare at h
  simp [Rate.create, Rate.ofNumber, Number.toBinary64?, Rate.ofBinary64?, h, Except.mapError]

theorem Throughput.create_of_isLimit {x : Binary64} (h : x.IsLimit) (now : Number) :
    ∃ t, Throughput.create (.real x) now = .ok t ∧ t.limit = x := by
  have small : (Number.real x).lt (.integer 0) = false := by
    obtain ⟨a, e, above⟩ := Binary64.isLimit_iff.mp h
    simpa [Number.lt, Number.extended?, e] using above
  simp [Throughput.create, small, Number.toBinary64?]

/-- What follows a step that succeeds gets what the step gives. -/
theorem ok_of_bind {ε α β : Type} {a : Except ε α} {f : α → Except ε β} {y : β}
    (h : a >>= f = .ok y) : ∃ x, a = .ok x ∧ f x = .ok y := by
  cases a with
  | error => cases h
  | ok x => exact ⟨x, rfl, h⟩

theorem ok_of_map {ε α β : Type} {a : Except ε α} {f : α → β} {y : β} (h : a.map f = .ok y) :
    ∃ x, a = .ok x ∧ f x = y := by
  cases a with
  | error => cases h
  | ok x =>
    cases h
    exact ⟨x, rfl, rfl⟩

namespace Checked

variable {α β : Type}

theorem of_both {a : Checked α} {b : Checked β} {x : α} {y : β} (h : a.both b = .ok (x, y)) :
    a = .ok x ∧ b = .ok y := by
  cases a <;> cases b <;> cases h
  exact ⟨rfl, rfl⟩

theorem of_under {step : PathStep} {a : Checked α} {x : α} (h : a.under step = .ok x) :
    a = .ok x := by
  cases a <;> cases h
  rfl

theorem of_ofProblem {a : Except Problem α} {x : α} (h : ofProblem a = .ok x) : a = .ok x := by
  cases a <;> cases h
  rfl

theorem of_map {a : Checked α} {f : α → β} {y : β} (h : a.map f = .ok y) :
    ∃ x, a = .ok x ∧ f x = y := by
  cases a <;> cases h
  exact ⟨_, rfl, rfl⟩

private theorem of_items {read : Json → Checked α} {place : Nat} {values : List Json} {xs : List α}
    (h : items read place values = .ok xs) : ∀ x ∈ xs, ∃ v, read v = .ok x := by
  induction values generalizing place xs with
  | nil =>
    cases h
    exact fun x m => absurd m List.not_mem_nil
  | cons v rest ih =>
    obtain ⟨⟨x, others⟩, both, rfl⟩ := of_map h
    obtain ⟨first, later⟩ := of_both both
    intro y m
    rcases List.mem_cons.mp m with rfl | m
    · exact ⟨v, of_under first⟩
    · exact ih later y m

end Checked

namespace Conversion

variable {α : Type} {ms : List (String × Json)} {names : List String} {read : Json → Checked α}
  {x : α}

theorem of_required (h : required ms names read = .ok x) : ∃ v, read v = .ok x := by
  unfold required at h
  split at h
  · exact ⟨_, Checked.of_under h⟩
  · cases h

theorem of_withDefault {standard : α} (h : withDefault ms names standard read = .ok x) :
    x = standard ∨ ∃ v, read v = .ok x := by
  unfold withDefault at h
  split at h
  · exact .inr ⟨_, Checked.of_under h⟩
  · cases h
    exact .inl rfl

private theorem of_nullable {v : Json} {y : Option α} (h : nullable read v = .ok y) :
    y = none ∨ ∃ x, y = some x ∧ read v = .ok x := by
  unfold nullable at h
  split at h
  · cases h
    exact .inl rfl
  · obtain ⟨x, e, rfl⟩ := Checked.of_map h
    exact .inr ⟨x, rfl, e⟩

theorem broken?_eq_none {bounds : List Bound} {x : Number} :
    broken? bounds x = none ↔ ∀ bound ∈ bounds, bound.holds x = true := by
  simp [broken?]

/-- Whatever a number is found in, its bounds are looked at last. -/
theorem holds_of_found {ν : Type} (as : ν → Number) {bounds : List Bound}
    {found : Except Problem ν} {n : ν}
    (h : (found >>= fun m => match broken? bounds (as m) with
      | some bound => .error (.outOfBounds bound)
      | none => .ok m) = .ok n) : ∀ bound ∈ bounds, bound.holds (as n) = true := by
  obtain ⟨m, -, kept⟩ := ok_of_bind h
  split at kept
  · cases kept
  case h_2 none =>
    cases kept
    exact broken?_eq_none.mp none

theorem holds_of_real {medium : Medium} {bounds : List Bound} {v : Json} {x : Binary64}
    (h : real medium bounds v = .ok x) : ∀ bound ∈ bounds, bound.holds (.real x) = true :=
  holds_of_found .real h

theorem real_of_holds {bounds : List Bound} {x : Binary64} (medium : Medium)
    (kept : ∀ bound ∈ bounds, bound.holds (.real x) = true) :
    real medium bounds (.real x) = .ok x := by
  simp [real, unboundedReal, broken?_eq_none.mpr kept, bind, Except.bind]

end Conversion

theorem Bound.holds_atLeast_zero (x : Binary64) :
    (Bound.atLeast 0).holds (.real x) = (Binary64.zero false).le x := by
  simp only [holds, Number.le, Number.lt, Number.eq, Number.extended?, Binary64.le, Binary64.lt,
    Binary64.eq, Binary64.extended?_zero]
  cases x.extended? <;> simp

theorem Bound.holds_atMost_one (x : Binary64) :
    (Bound.atMost 1).holds (.real x) = x.le .one := by
  simp only [holds, Number.le, Number.lt, Number.eq, Number.extended?, Binary64.le, Binary64.lt,
    Binary64.eq, Binary64.extended?_one]
  cases x.extended? <;> simp

private theorem Binary64.isLimit_of_holds {x : Binary64}
    (h : ∀ bound ∈ Strategy.throughputBounds, bound.holds (.real x) = true) : x.IsLimit :=
  (Bound.holds_atLeast_zero x).symm.trans (h (.atLeast 0) (by decide))

private theorem Binary64.isShare_of_holds {x : Binary64}
    (h : ∀ bound ∈ Strategy.rateBounds, bound.holds (.real x) = true) : x.IsShare := by
  have above := (Bound.holds_atLeast_zero x).symm.trans (h (.atLeast 0) (by decide))
  have below := (Bound.holds_atMost_one x).symm.trans (h (.atMost 1) (by decide))
  exact Bool.and_eq_true_iff.mpr ⟨above, below⟩

/-- Rates by operation whose numbers are shares and whose bound is a limit. -/
structure OperationParameters.IsSound (p : OperationParameters) : Prop where
  rate : p.defaultRate.IsShare
  bound : p.defaultLowerBound.IsLimit
  operations : ∀ entry ∈ p.operations, entry.2.IsShare

/-- A strategy whose numbers are shares and limits. -/
structure Strategy.IsSound (s : Strategy) : Prop where
  rate : ∀ x, s.probabilistic = some x → x.IsShare
  limit : ∀ x, s.rateLimiting = some x → x.IsLimit
  operations : ∀ p, s.operations = some p → p.IsSound

namespace Strategy

open Conversion

private theorem isShare_of_read {medium : Medium} {v : Json} {x : Binary64}
    (h : readProbabilistic medium v = .ok x) : x.IsShare := by
  obtain ⟨ms, -, read⟩ := ok_of_bind h
  obtain ⟨w, read⟩ := of_required read
  exact Binary64.isShare_of_holds (holds_of_real (Checked.of_ofProblem read))

private theorem isLimit_of_read {medium : Medium} {v : Json} {x : Binary64}
    (h : readRateLimiting medium v = .ok x) : x.IsLimit := by
  obtain ⟨ms, -, read⟩ := ok_of_bind h
  obtain ⟨w, read⟩ := of_required read
  exact Binary64.isLimit_of_holds (holds_of_real (Checked.of_ofProblem read))

private theorem isShare_of_readOperations {medium : Medium} {v : Json}
    {operations : List (String × Binary64)} (h : readOperations medium v = .ok operations) :
    ∀ entry ∈ operations, entry.2.IsShare := by
  obtain ⟨items, -, read⟩ := ok_of_bind h
  rintro ⟨name, rate⟩ m
  obtain ⟨item, read⟩ := Checked.of_items read (name, rate) m
  obtain ⟨ms, -, read⟩ := ok_of_bind read
  obtain ⟨w, read⟩ := of_required (Checked.of_both read).2
  exact isShare_of_read read

theorem isSound_of_readParameters {medium : Medium} {v : Json} {p : OperationParameters}
    (h : readParameters medium v = .ok p) : p.IsSound := by
  obtain ⟨ms, -, read⟩ := ok_of_bind h
  dsimp only at read
  obtain ⟨⟨rate, bound, operations⟩, parts, rfl⟩ := Checked.of_map read
  obtain ⟨readRate, parts⟩ := Checked.of_both parts
  obtain ⟨readBound, readList⟩ := Checked.of_both parts
  refine ⟨?_, ?_, ?_⟩
  · obtain ⟨w, readRate⟩ := of_required readRate
    exact Binary64.isShare_of_holds (holds_of_real (Checked.of_ofProblem readRate))
  · rcases of_withDefault readBound with rfl | ⟨w, readBound⟩
    · show (Binary64.zero false).le (Binary64.zero false) = true
      decide +kernel
    · exact Binary64.isLimit_of_holds (holds_of_real (Checked.of_ofProblem readBound))
  · rcases of_withDefault readList with rfl | ⟨w, readList⟩
    · exact fun entry m => absurd m List.not_mem_nil
    · exact isShare_of_readOperations readList

theorem isSound_of_ofJson {v : Json} {s : Strategy} (h : ofJson v = .ok s) : s.IsSound := by
  obtain ⟨ms, -, read⟩ := ok_of_bind h
  dsimp only at read
  obtain ⟨⟨kind, rate, limit, operations⟩, parts, rfl⟩ := Checked.of_map read
  obtain ⟨-, parts⟩ := Checked.of_both parts
  obtain ⟨readRate, parts⟩ := Checked.of_both parts
  obtain ⟨readLimit, readTable⟩ := Checked.of_both parts
  -- a member that is there was read by the reader of its kind
  have present {α : Type} {names : List String} {reader : Json → Checked α} {y : Option α} {x : α}
      (member : withDefault ms names none (nullable reader) = .ok y) (given : y = some x) :
      ∃ w, reader w = .ok x := by
    subst given
    obtain absent | ⟨w, nulled⟩ := of_withDefault member
    · cases absent
    obtain absent | ⟨x', same, inner⟩ := of_nullable nulled
    · cases absent
    cases same
    exact ⟨w, inner⟩
  refine ⟨fun x given => ?_, fun x given => ?_, fun p given => ?_⟩
  · obtain ⟨w, inner⟩ := present readRate given
    exact isShare_of_read inner
  · obtain ⟨w, inner⟩ := present readLimit given
    exact isLimit_of_read inner
  · obtain ⟨w, inner⟩ := present readTable given
    exact isSound_of_readParameters inner

private theorem isSound_of_parse {payload : Payload} {service : Json} {s : Strategy}
    (h : parse payload service = .ok s) : s.IsSound := by
  have read : ofPayload payload = .ok s := by
    unfold parse at h
    cases e : ofPayload payload with
    | error => simp [e, Except.mapError] at h
    | ok s' => simpa [e, Except.mapError] using h
  unfold ofPayload at read
  split at read
  · cases read
  · cases read
  · split at read
    · exact isSound_of_ofJson read
    · cases read

end Strategy

theorem StrategySource.isSound_of_fetch {source : StrategySource} {service : Json}
    {net : Http.Network} {s : Strategy} (h : (source.fetch service net).1 = .ok s) :
    s.IsSound := by
  have parsed {payload : Payload} {service : Json}
      (h : (Strategy.parse payload service).mapError Fault.failure = .ok s) : s.IsSound := by
    cases e : Strategy.parse payload service with
    | error => simp [e, Except.mapError] at h
    | ok s' =>
      simp only [e, Except.mapError, Except.ok.injEq] at h
      exact h ▸ Strategy.isSound_of_parse e
  cases source with
  | scripted answers asked closed =>
    simp only [fetch] at h
    split at h
    · cases h
    case h_2 a rest _ =>
      cases e : a.reply with
      | document text =>
        rw [e] at h
        exact parsed h
      | refused message service =>
        rw [e] at h
        cases h
      | broken text =>
        rw [e] at h
        cases h
  | agent a =>
    simp only [fetch, StrategyAgent.fetch] at h
    split at h
    · exact parsed h
    · split at h <;> cases h

end Tracing
