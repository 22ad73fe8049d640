import Mathlib.Data.List.Forall2
import Tracing.Proofs.Sampling.Change
import Tracing.Proofs.Sampling.Fraction
import Tracing.Proofs.Sampling.Independence
import Tracing.Proofs.Sampling.Joint
/-!
Larger shares sample more. What a share samples, any larger one samples too; and since a floor hears
of every question, whatever the share made of it, its credits are the same under both. So a run in
which shares are larger keeps every trace that the run without them keeps.
-/

set_option autoImplicit false
set_option relaxedAutoImplicit false

namespace Tracing

namespace Rate

variable {r r' : Rate}

private theorem le_iff_share : r.value.le r'.value = true ↔ r.share ≤ r'.share := by
  unfold Binary64.le Binary64.lt Binary64.eq
  rw [extended?_value, extended?_value]
  simp [Extended.blt, le_iff_lt_or_eq]

private theorem boundary_mono (larger : r.share ≤ r'.share) : r.boundary ≤ r'.boundary := by
  have half : r.share * 2 ^ 63 ≤ r'.share * 2 ^ 63 :=
    mul_le_mul_of_nonneg_right larger (by positivity)
  have whole := Int.floor_mono half
  rw [floor_share, floor_share] at whole
  exact_mod_cast whole

/-- What a share samples, a larger one samples too. An identifier is cut to 64 bits and read with
its sign first, so it may be any integer. -/
private theorem covers_mono (larger : r.share ≤ r'.share) {traceId : Int}
    (sampled : r.covers traceId = true) : r'.covers traceId = true := by
  have wider := boundary_mono larger
  unfold covers at sampled ⊢
  dsimp only at sampled ⊢
  by_cases positive : 0 < Identifier.signed traceId
  · rw [if_pos positive, decide_eq_true_eq] at sampled ⊢
    omega
  · rw [if_neg positive] at sampled ⊢
    by_cases negative : Identifier.signed traceId < 0
    · rw [if_pos negative, decide_eq_true_eq] at sampled ⊢
      omega
    · rw [if_neg negative, isPositive_iff] at sampled ⊢
      exact sampled.trans_le larger

private theorem create_of_eq {n : Number} (same : n.eq (.real r.value) = true) :
    ∃ s, create n = .ok s ∧ s.share = r.share := by
  have place : n.extended? = some (.value r.share) := by
    rw [Number.extended?_eq_of_eq same]
    exact r.extended?_value
  -- the only integers among the shares are the ends
  have whole (k : Int) (integral : (k : ℚ) = r.share) : k = 0 ∨ k = 1 := by
    have above : (0 : ℚ) ≤ k := integral ▸ r.share_nonneg
    have below : (k : ℚ) ≤ 1 := integral ▸ r.share_le_one
    have above : 0 ≤ k := by exact_mod_cast above
    have below : k ≤ 1 := by exact_mod_cast below
    omega
  have zero (none : r.share = 0) : (⟨.zero false, by decide +kernel⟩ : Rate).share = r.share := by
    rw [none]
    rfl
  have one (all : r.share = 1) : (⟨.one, by decide +kernel⟩ : Rate).share = r.share := by
    rw [all]
    decide +kernel
  cases n with
  | integer k =>
    have integral : (k : ℚ) = r.share := by simpa [Number.extended?] using place
    rcases whole k integral with rfl | rfl
    · exact ⟨_, rfl, zero (by simpa using integral.symm)⟩
    · exact ⟨_, rfl, one (by simpa using integral.symm)⟩
  | truth b =>
    cases b with
    | false => exact ⟨_, rfl, zero (by simpa [Number.extended?] using place.symm)⟩
    | true => exact ⟨_, rfl, one (by simpa [Number.extended?] using place.symm)⟩
  | real x =>
    have share : x.IsShare := by
      have inRange : r.value.IsShare := r.inRange
      unfold Binary64.IsShare Binary64.le Binary64.lt Binary64.eq at inRange ⊢
      rw [show x.extended? = r.value.extended? from place.trans r.extended?_value.symm]
      exact inRange
    refine ⟨⟨x, share⟩, create_of_isShare share, ?_⟩
    have own : x.extended? = some (.value (⟨x, share⟩ : Rate).share) := extended?_value ⟨x, share⟩
    have agree : some (Extended.value (⟨x, share⟩ : Rate).share) = some (.value r.share) :=
      own.symm.trans place
    simpa using agree

end Rate

/-- Two results abreast of each other: they are related, or both are the same fault. -/
inductive Abreast {α β : Type} (related : α → β → Prop) :
    Except Fault α → Except Fault β → Prop where
  | ok {a : α} {b : β} (both : related a b) : Abreast related (.ok a) (.ok b)
  | error (f : Fault) : Abreast related (.error f) (.error f)

namespace Abreast

variable {α β γ δ : Type} {related : α → β → Prop} {next : γ → δ → Prop}
variable {x : Except Fault α} {y : Except Fault β}

private theorem refl (related : α → α → Prop) (own : ∀ a, related a a) (x : Except Fault α) :
    Abreast related x x := by
  cases x with
  | error f => exact .error f
  | ok a => exact .ok (own a)

private theorem bind {f : α → Except Fault γ} {g : β → Except Fault δ}
    (abreast : Abreast related x y)
    (step : ∀ a b, related a b → Abreast next (f a) (g b)) : Abreast next (x >>= f) (y >>= g) := by
  cases abreast with
  | error f => exact .error f
  | ok both => exact step _ _ both

private theorem map {f : α → γ} {g : β → δ} (abreast : Abreast related x y)
    (step : ∀ a b, related a b → next (f a) (g b)) : Abreast next (x.map f) (y.map g) := by
  cases abreast with
  | error f => exact .error f
  | ok both => exact .ok (step _ _ both)

end Abreast

def SamplingStatus.StaysSampled (s s' : SamplingStatus) : Prop :=
  s.sampled = true → s'.sampled = true

/-- A number in the place of another: the same one, or one that makes a larger share. -/
inductive Number.Raised : Number → Number → Prop where
  | same {n : Number} : Raised n n
  | larger {n n' : Number} {r r' : Rate} (made : Rate.create n = .ok r)
      (made' : Rate.create n' = .ok r') (larger : r.value.le r'.value = true) : Raised n n'

namespace Rate

private theorem create_of_raised {n n' : Number} (raised : n.Raised n') :
    Abreast (fun r r' => r.value.le r'.value = true) (create n) (create n') := by
  cases raised with
  | same => exact Abreast.refl _ (fun r => le_iff_share.mpr le_rfl) _
  | larger made made' larger =>
    rw [made, made']
    exact .ok larger

/-- The share that is in force after a number was given. -/
def given (r : Rate) (n : Number) : Except Fault Rate :=
  if n.eq (.real r.value) then .ok r else create n

private theorem given_abreast (r : Rate) (n : Number) :
    Abreast (fun s made => s.share = made.share) (r.given n) (create n) := by
  unfold given
  split
  case isFalse other => exact Abreast.refl _ (fun _ => by rfl) _
  case isTrue same =>
    obtain ⟨s, made, equal⟩ := create_of_eq same
    rw [made]
    exact .ok equal.symm

private theorem given_of_raised (r r' : Rate) {n n' : Number} (raised : n.Raised n') :
    Abreast (fun s s' => s.value.le s'.value = true) (r.given n) (r'.given n') := by
  have shares := create_of_raised raised
  have left := r.given_abreast n
  have right := r'.given_abreast n'
  generalize create n = made, create n' = made', r.given n = kept, r'.given n' = kept'
    at shares left right
  cases shares with
  | error f =>
    cases left
    cases right
    exact .error f
  | ok larger =>
    cases left with
    | ok same =>
      cases right with
      | ok same' =>
        refine .ok (le_iff_share.mpr ?_)
        rw [same, same']
        exact le_iff_share.mp larger

end Rate

namespace Guaranteed

def answer? (g : Guaranteed) : Call → Option (Except Fault SamplingStatus)
  | .sample now _ traceId => some ((g.sample now traceId).map Prod.fst)
  | .update .. => none

def answers (g : Guaranteed) : List Call → List (Except Fault SamplingStatus)
  | [] => []
  | call :: rest => (g.answer? call).toList ++ (g.after call).answers rest

/-- A sampler with the same floor, credits included, under a share that is no smaller. -/
structure Below (g g' : Guaranteed) : Prop where
  rate : g.rate.value.le g'.rate.value = true
  floor : g'.floor = g.floor

/-- One run is another in which shares are larger: its updates may give larger ones, and it may have
updates more than the other, to a larger share and the limit in force. -/
inductive Lifts : Guaranteed → List Call → List Call → Prop where
  | done {g : Guaranteed} : Lifts g [] []
  | question {g : Guaranteed} {now : Number} {operation : String} {traceId : Int}
      {calls calls' : List Call}
      (rest : (g.after (.sample now operation traceId)).Lifts calls calls') :
      Lifts g (.sample now operation traceId :: calls) (.sample now operation traceId :: calls')
  | update {g : Guaranteed} {now rate rate' bound : Number} {calls calls' : List Call}
      (raised : rate.Raised rate') (rest : (g.after (.update now rate bound)).Lifts calls calls') :
      Lifts g (.update now rate bound :: calls) (.update now rate' bound :: calls')
  | more {g : Guaranteed} {now rate bound : Number} {r : Rate} {calls calls' : List Call}
      (still : bound.eq (.real g.floor.limit) = true) (made : Rate.create rate = .ok r)
      (larger : g.rate.value.le r.value = true) (rest : g.Lifts calls calls') :
      Lifts g calls (.update now rate bound :: calls')

section Steps

variable {g g' : Guaranteed} {rate rate' bound now : Number}

private theorem create_below (raised : rate.Raised rate') (bound start : Number) :
    Abreast Below (create rate bound start) (create rate' bound start) := by
  refine (Rate.create_of_raised raised).bind fun r r' larger => ?_
  refine (Abreast.refl Eq (fun _ => rfl) (Throughput.create bound start)).bind ?_
  rintro floor _ rfl
  exact .ok ⟨larger, rfl⟩

private theorem update_eq (g : Guaranteed) (rate bound now : Number) : g.update rate bound now =
    (g.rate.given rate).bind fun share =>
      (if bound.eq (.real g.floor.limit) then .ok g.floor else Throughput.create bound now).map
        fun floor =>
          (!rate.eq (.real g.rate.value) || !bound.eq (.real g.floor.limit), ⟨share, floor⟩) := by
  unfold update Rate.given
  cases rate.eq (.real g.rate.value) <;> cases bound.eq (.real g.floor.limit)
  · cases Rate.create rate with
    | error f => rfl
    | ok share => cases Throughput.create bound now <;> rfl
  · cases Rate.create rate <;> rfl
  · cases Throughput.create bound now <;> rfl
  · rfl

private theorem Below.update (below : g.Below g') (raised : rate.Raised rate')
    (bound now : Number) :
    Abreast (fun done done' => done.2.Below done'.2) (g.update rate bound now)
      (g'.update rate' bound now) := by
  rw [update_eq, update_eq, below.floor]
  refine (Rate.given_of_raised g.rate g'.rate raised).bind fun s s' larger => ?_
  exact (Abreast.refl Eq (fun _ => rfl) _).map fun floor floor' same => ⟨larger, same.symm⟩

private theorem Below.update_more (below : g.Below g') {r : Rate}
    (still : bound.eq (.real g.floor.limit) = true) (made : Rate.create rate = .ok r)
    (larger : g.rate.value.le r.value = true) (now : Number) :
    ∃ changed g'', g'.update rate bound now = .ok (changed, g'') ∧ g.Below g'' := by
  have shares := g'.rate.given_abreast rate
  rw [made] at shares
  rw [update_eq, below.floor, still]
  generalize g'.rate.given rate = given at shares ⊢
  cases shares with
  | @ok s _ equal =>
    refine ⟨_, _, rfl, Rate.le_iff_share.mpr ?_, rfl⟩
    show g.rate.share ≤ s.share
    rw [equal]
    exact Rate.le_iff_share.mp larger

private theorem Below.sample (below : g.Below g') (now : Number) (traceId : Int) :
    Abreast (fun done done' => done.1.StaysSampled done'.1 ∧ done.2.Below done'.2)
      (g.sample now traceId) (g'.sample now traceId) := by
  unfold Guaranteed.sample
  rw [below.floor]
  refine (Abreast.refl Eq (fun _ => rfl) _).map ?_
  rintro ⟨granted, floor⟩ _ rfl
  refine ⟨?_, below.rate, rfl⟩
  have wider : g.rate.covers traceId = true → g'.rate.covers traceId = true :=
    Rate.covers_mono (Rate.le_iff_share.mp below.rate)
  intro sampled
  dsimp only at sampled ⊢
  by_cases kept : g'.rate.covers traceId = true
  · rw [if_pos kept]
    exact kept
  · -- no share keeps the trace, so the floor did, and both floors are asked at the same credits
    rw [if_neg kept]
    rw [if_neg fun narrow => kept (wider narrow)] at sampled
    exact sampled

private theorem Below.after_sample (below : g.Below g') (now : Number) (operation : String)
    (traceId : Int) : (g.after (.sample now operation traceId)).Below
      (g'.after (.sample now operation traceId)) := by
  rw [Guaranteed.after_sample, Guaranteed.after_sample, below.floor]
  exact ⟨below.rate, rfl⟩

private theorem Below.after_update (below : g.Below g') (raised : rate.Raised rate')
    (now bound : Number) :
    (g.after (.update now rate bound)).Below (g'.after (.update now rate' bound)) := by
  have both := below.update raised bound now
  unfold after
  dsimp only
  generalize g.update rate bound now = left, g'.update rate' bound now = right at both
  cases both with
  | error f => exact below
  | ok next => exact next

end Steps

private theorem Lifts.answers {g g' : Guaranteed} {calls calls' : List Call}
    (lifts : g.Lifts calls calls')
    (below : g.Below g') :
    List.Forall₂ (Abreast SamplingStatus.StaysSampled) (g.answers calls) (g'.answers calls') := by
  induction lifts generalizing g' with
  | done => exact .nil
  | @question g now operation traceId calls calls' rest ih =>
    have stays := (below.sample now traceId).map fun _ _ both => both.1
    exact .cons stays (ih (below.after_sample now operation traceId))
  | update raised rest ih => exact ih (below.after_update raised _ _)
  | @more g now rate bound r calls calls' still made larger rest ih =>
    obtain ⟨changed, g'', updated, next⟩ := below.update_more still made larger now
    have moved : g'.after (.update now rate bound) = g'' := by
      simp only [after, updated]
    show List.Forall₂ _ _ ((g'.after (.update now rate bound)).answers calls')
    rw [moved]
    exact ih next

end Guaranteed

namespace OperationTable

def EntryBelow (entry entry' : String × Guaranteed) : Prop :=
  entry'.1 = entry.1 ∧ entry.2.Below entry'.2

/-- A table of the same operations and limits with rates that are no smaller. -/
structure Below (t t' : OperationTable) : Prop where
  capacity : t'.maxOperations = t.maxOperations
  bound : t'.lowerBound = t.lowerBound
  rate : t.defaultRate.value.le t'.defaultRate.value = true
  entries : List.Forall₂ EntryBelow t.entries t'.entries

/-- Operations named in the same order, each with a rate that may be larger. -/
abbrev NamesRaised : List (String × Binary64) → List (String × Binary64) → Prop :=
  List.Forall₂ fun operation operation' =>
    operation'.1 = operation.1 ∧ (Number.real operation.2).Raised (.real operation'.2)

/-- Parameters in which rates are larger, of named operations or of the others. -/
structure Raised (p p' : OperationParameters) : Prop where
  bound : p'.defaultLowerBound = p.defaultLowerBound
  rate : (Number.real p.defaultRate).Raised (.real p'.defaultRate)
  operations : NamesRaised p.operations p'.operations

/-- Parameters that give nothing in a table another limit or a smaller rate. Operations that they
name and that are not in the table find no room there. -/
structure Raises (p : OperationParameters) (t : OperationTable) : Prop where
  bound : p.defaultLowerBound.eq t.lowerBound = true
  rate : p.defaultRate.IsShare ∧ t.defaultRate.value.le p.defaultRate = true
  bounds : ∀ entry ∈ t.entries, p.defaultLowerBound.eq entry.2.floor.limit = true
  rates : ∀ entry ∈ t.entries,
    (p.rateOf entry.1).IsShare ∧ entry.2.rate.value.le (p.rateOf entry.1) = true
  room : ∀ name ∈ p.operations.map Prod.fst,
    name ∈ t.names ∨ hasRoom t.maxOperations t.entries = false

/-- One run is another in which rates are larger: its updates may give larger ones, and it may have
updates more than the other that only make rates larger. -/
inductive Lifts : OperationTable → List Call → List Call → Prop where
  | done {t : OperationTable} : Lifts t [] []
  | question {t : OperationTable} {now : Number} {operation : String} {traceId : Int}
      {calls calls' : List Call}
      (rest : (t.after (.sample now operation traceId)).Lifts calls calls') :
      Lifts t (.sample now operation traceId :: calls) (.sample now operation traceId :: calls')
  | update {t : OperationTable} {now : Number} {p p' : OperationParameters}
      {calls calls' : List Call} (raised : Raised p p')
      (rest : (t.after (.update now p)).Lifts calls calls') :
      Lifts t (.update now p :: calls) (.update now p' :: calls')
  | more {t : OperationTable} {now : Number} {p : OperationParameters} {calls calls' : List Call}
      (raises : Raises p t) (rest : t.Lifts calls calls') : Lifts t calls (.update now p :: calls')

section Entries

variable {xs ys : List (String × Guaranteed)} {name : String}

private theorem rel_find? (below : List.Forall₂ EntryBelow xs ys) (name : String) :
    Option.Rel Guaranteed.Below (find? name xs) (find? name ys) := by
  induction below with
  | nil => exact .none
  | @cons x y _ _ first _ ih =>
    obtain ⟨k, own⟩ := x
    obtain ⟨_, own'⟩ := y
    obtain ⟨rfl, lower⟩ := first
    unfold find?
    split
    · exact .some lower
    · exact ih

private theorem forall₂_set {own own' : Guaranteed} (below : List.Forall₂ EntryBelow xs ys)
    (lower : own.Below own') :
    List.Forall₂ EntryBelow (set name own xs) (set name own' ys) := by
  induction below with
  | nil => exact .nil
  | @cons x y _ _ first rest ih =>
    obtain ⟨k, g⟩ := x
    obtain ⟨_, g'⟩ := y
    obtain ⟨rfl, first⟩ := first
    unfold set
    split
    · exact .cons ⟨rfl, lower⟩ rest
    · exact .cons ⟨rfl, first⟩ ih

private theorem forall₂_set_right {g own' : Guaranteed} (below : List.Forall₂ EntryBelow xs ys)
    (found : find? name xs = some g) (lower : g.Below own') :
    List.Forall₂ EntryBelow xs (set name own' ys) := by
  induction below with
  | nil => cases found
  | @cons x y _ _ first rest ih =>
    obtain ⟨k, g⟩ := x
    obtain ⟨_, g'⟩ := y
    obtain ⟨rfl, first⟩ := first
    unfold find? at found
    unfold set
    split at found
    case isTrue same =>
      cases found
      rw [if_pos same]
      exact .cons ⟨rfl, lower⟩ rest
    case isFalse other =>
      rw [if_neg other]
      exact .cons ⟨rfl, first⟩ (ih found)

end Entries

section Questions

variable {t t' : OperationTable}

private theorem Below.sample (below : t.Below t') (now : Number) (operation : String)
    (traceId : Int) :
    Abreast (fun done done' => done.1.StaysSampled done'.1 ∧ done.2.Below done'.2)
      (t.sample now operation traceId) (t'.sample now operation traceId) := by
  obtain ⟨capacity, bound, rate, entries⟩ := below
  unfold OperationTable.sample
  have there := rel_find? entries operation
  generalize find? operation t.entries = found, find? operation t'.entries = found' at there
  cases there with
  | some lower =>
    refine (lower.sample now traceId).map fun done done' both => ?_
    exact ⟨both.1, capacity, bound, rate, forall₂_set entries both.2⟩
  | none =>
    have full : isFull t'.maxOperations t'.entries = isFull t.maxOperations t.entries := by
      unfold isFull
      rw [capacity, entries.length_eq]
    dsimp only
    rw [full]
    split
    · exact .ok ⟨Rate.covers_mono (Rate.le_iff_share.mp rate), capacity, bound, rate, entries⟩
    · rw [bound]
      have made := Guaranteed.create_below (.larger (Rate.create_of_isShare t.defaultRate.inRange)
        (Rate.create_of_isShare t'.defaultRate.inRange) rate) (.real t.lowerBound) now
      refine made.bind fun g g' lower => ?_
      refine (lower.sample now traceId).bind fun done done' both => ?_
      have entered : List.Forall₂ EntryBelow [(operation, done.2)] [(operation, done'.2)] :=
        .cons ⟨rfl, both.2⟩ .nil
      exact .ok ⟨both.1, capacity, rfl, rate, List.rel_append entries entered⟩

private theorem Below.after_sample (below : t.Below t') (now : Number) (operation : String)
    (traceId : Int) : (t.after (.sample now operation traceId)).Below
      (t'.after (.sample now operation traceId)) := by
  have both := below.sample now operation traceId
  unfold after
  dsimp only
  generalize t.sample now operation traceId = left, t'.sample now operation traceId = right at both
  cases both with
  | error f => exact below
  | ok next => exact next.2

end Questions

section Names

variable {named named' : List (String × Binary64)}

private theorem NamesRaised.any (raised : NamesRaised named named') (name : String) :
    (named'.any fun (k, _) => k = name) = named.any fun (k, _) => k = name := by
  induction raised with
  | nil => rfl
  | @cons x y _ _ first _ ih =>
    obtain ⟨_, r⟩ := x
    obtain ⟨k, r'⟩ := y
    obtain ⟨rfl, -⟩ := first
    rw [List.any_cons, List.any_cons, ih]

private theorem NamesRaised.mention {operation operation' : String × Binary64}
    (raised : NamesRaised named named') (same : operation'.1 = operation.1)
    (larger : (Number.real operation.2).Raised (.real operation'.2)) :
    NamesRaised (OperationTable.mention named operation)
      (OperationTable.mention named' operation') := by
  unfold OperationTable.mention
  rw [same, raised.any]
  split
  · refine List.forall₂_map_left_iff.mpr (List.forall₂_map_right_iff.mpr ?_)
    refine raised.imp fun own own' first => ?_
    obtain ⟨_, r⟩ := own
    obtain ⟨k, r'⟩ := own'
    obtain ⟨rfl, first⟩ := first
    dsimp only
    split
    · exact ⟨rfl, larger⟩
    · exact ⟨rfl, first⟩
  · exact List.rel_append raised (.cons ⟨same, larger⟩ .nil)

private theorem NamesRaised.explicitRates {operations operations' : List (String × Binary64)}
    (raised : NamesRaised operations operations') :
    NamesRaised (OperationTable.explicitRates operations)
      (OperationTable.explicitRates operations') := by
  have onward (done done' : List (String × Binary64)) (before : NamesRaised done done') :
      NamesRaised (operations.foldl OperationTable.mention done)
        (operations'.foldl OperationTable.mention done') := by
    induction raised generalizing done done' with
    | nil => exact before
    | cons first _ ih => exact ih _ _ (before.mention first.1 first.2)
  exact onward [] [] .nil

end Names

section Updates

variable {named named' : List (String × Binary64)} (now : Number) (bound : Binary64)
variable {xs ys : List (String × Guaranteed)}

private theorem moveUnnamed_below {rate rate' : Rate} (raised : NamesRaised named named')
    (larger : rate.value.le rate'.value = true) (below : List.Forall₂ EntryBelow xs ys) :
    Abreast (fun _ _ => True) (moveUnnamed named rate bound now xs).1
        (moveUnnamed named' rate' bound now ys).1 ∧
      List.Forall₂ EntryBelow (moveUnnamed named rate bound now xs).2
        (moveUnnamed named' rate' bound now ys).2 := by
  induction below with
  | nil => exact ⟨.ok trivial, .nil⟩
  | @cons x y xs ys first rest ih =>
    obtain ⟨_, g⟩ := x
    obtain ⟨name, g'⟩ := y
    obtain ⟨rfl, first⟩ := first
    obtain ⟨results, moved⟩ := ih
    rw [moveUnnamed, moveUnnamed, raised.any]
    split
    · exact ⟨results, .cons ⟨rfl, first⟩ moved⟩
    · have both := first.update (.larger (Rate.create_of_isShare rate.inRange)
        (Rate.create_of_isShare rate'.inRange) larger) (.real bound) now
      generalize g.update (.real rate.value) (.real bound) now = left,
        g'.update (.real rate'.value) (.real bound) now = right at both
      cases both with
      | error f => exact ⟨.error f, .cons ⟨rfl, first⟩ rest⟩
      | ok next => exact ⟨results.map fun _ _ _ => trivial, .cons ⟨rfl, next⟩ moved⟩

/-- Progress with the same operations in either place. -/
structure ProgressBelow (p p' : Progress) : Prop where
  old : List.Forall₂ EntryBelow p.old p'.old
  new : List.Forall₂ EntryBelow p.new p'.new

private theorem moveNamed_below (maxOperations : Number) (raised : NamesRaised named named')
    {p p' : Progress} (below : ProgressBelow p p') :
    (moveNamed maxOperations bound now named' p').1 =
        (moveNamed maxOperations bound now named p).1 ∧
      ProgressBelow (moveNamed maxOperations bound now named p).2
        (moveNamed maxOperations bound now named' p').2 := by
  induction raised generalizing p p' with
  | nil => exact ⟨rfl, below⟩
  | @cons x y _ _ first _ ih =>
    obtain ⟨_, rate⟩ := x
    obtain ⟨name, rate'⟩ := y
    obtain ⟨rfl, larger⟩ := first
    obtain ⟨old, new⟩ := below
    rw [moveNamed, moveNamed]
    have there := rel_find? old name
    generalize find? name p.old = found, find? name p'.old = found' at there
    cases there with
    | @some g g' lower =>
      have both := lower.update larger (.real bound) now
      dsimp only
      generalize g.update (.real rate) (.real bound) now = left,
        g'.update (.real rate') (.real bound) now = right at both
      cases both with
      | error f => exact ⟨rfl, old, new⟩
      | ok next => exact ih ⟨forall₂_set old next, new⟩
    | none =>
      have room : hasRoom maxOperations (p'.old ++ p'.new) =
          hasRoom maxOperations (p.old ++ p.new) := by
        unfold hasRoom
        rw [(List.rel_append old new).length_eq]
      dsimp only
      rw [room]
      split
      · have both := Guaranteed.create_below larger (.real bound) now
        generalize Guaranteed.create (.real rate) (.real bound) now = left,
          Guaranteed.create (.real rate') (.real bound) now = right at both
        cases both with
        | error f => exact ⟨rfl, old, new⟩
        | ok next => exact ih ⟨old, List.rel_append new (.cons ⟨rfl, next⟩ .nil)⟩
      · exact ih ⟨old, new⟩

private theorem share_kept (rate inForce : Rate) :
    (if !rate.value.eq inForce.value then rate else inForce).share = rate.share := by
  cases same : rate.value.eq inForce.value with
  | false => rfl
  | true =>
    have place := Binary64.extended?_eq_of_eq same
    rw [Rate.extended?_value, Rate.extended?_value] at place
    simpa using place.symm

variable {t t' : OperationTable} {p p' : OperationParameters}

private theorem Below.update (below : t.Below t') (raised : Raised p p') :
    Abreast (fun _ _ => True) (t.update p now).result (t'.update p' now).result ∧
      (t.update p now).table.Below (t'.update p' now).table := by
  obtain ⟨capacity, lowerBound, rate, entries⟩ := below
  have shares := Rate.create_of_raised raised.rate
  have names := raised.operations.explicitRates
  unfold OperationTable.update
  generalize Rate.create (.real p.defaultRate) = left,
    Rate.create (.real p'.defaultRate) = right at shares
  cases shares with
  | error f => exact ⟨.error f, capacity, lowerBound, rate, entries⟩
  | @ok r r' larger =>
    have defaults : (if !r.value.eq t.defaultRate.value then r else t.defaultRate).value.le
        (if !r'.value.eq t'.defaultRate.value then r' else t'.defaultRate).value = true := by
      rw [Rate.le_iff_share, share_kept, share_kept]
      exact Rate.le_iff_share.mp larger
    obtain ⟨results, moved⟩ := moveUnnamed_below now p.defaultLowerBound names larger entries
    dsimp only
    rw [raised.bound, lowerBound, capacity]
    generalize moveUnnamed (explicitRates p.operations) r p.defaultLowerBound now t.entries = done,
      moveUnnamed (explicitRates p'.operations) r' p.defaultLowerBound now t'.entries = done'
      at results moved
    obtain ⟨result, moves⟩ := done
    obtain ⟨result', moves'⟩ := done'
    cases results with
    | error f => exact ⟨.error f, rfl, rfl, defaults, moved⟩
    | ok _ =>
      have begun : ProgressBelow { old := moves } { old := moves' } := ⟨moved, .nil⟩
      obtain ⟨same, progress⟩ := moveNamed_below now p.defaultLowerBound t.maxOperations names begun
      dsimp only
      generalize moveNamed t.maxOperations p.defaultLowerBound now (explicitRates p.operations)
          { old := moves } = ended,
        moveNamed t.maxOperations p.defaultLowerBound now (explicitRates p'.operations)
          { old := moves' } = ended' at same progress
      obtain ⟨fault, q⟩ := ended
      obtain ⟨fault', q'⟩ := ended'
      obtain rfl : fault' = fault := same
      cases fault' with
      | some f => exact ⟨.error f, rfl, rfl, defaults, progress.old⟩
      | none =>
        exact ⟨.ok trivial, rfl, rfl, defaults, List.rel_append progress.old progress.new⟩

private theorem create_below (maxOperations : Number) (raised : Raised p p') :
    Abreast Below (create maxOperations p now).1 (create maxOperations p' now).1 := by
  have shares := Rate.create_of_raised raised.rate
  unfold create
  split
  · exact .error _
  · generalize Rate.create (.real p.defaultRate) = left,
      Rate.create (.real p'.defaultRate) = right at shares
    cases shares with
    | error f => exact .error f
    | @ok r r' larger =>
      have empty : Below ⟨maxOperations, r, p.defaultLowerBound, []⟩
          ⟨maxOperations, r', p'.defaultLowerBound, []⟩ := ⟨rfl, raised.bound, larger, .nil⟩
      obtain ⟨results, tables⟩ := empty.update now raised
      exact results.map fun _ _ _ => tables

private theorem moveUnnamed_more (rate : Rate) (below : List.Forall₂ EntryBelow xs ys)
    (still : ∀ entry ∈ xs, bound.eq entry.2.floor.limit = true)
    (larger : ∀ entry ∈ xs, named.lookup entry.1 = none → entry.2.rate.value.le rate.value = true) :
    ∃ changed moved, moveUnnamed named rate bound now ys = (.ok changed, moved) ∧
      List.Forall₂ EntryBelow xs moved := by
  induction below with
  | nil => exact ⟨false, [], rfl, .nil⟩
  | @cons x y _ _ first _ ih =>
    obtain ⟨_, g⟩ := x
    obtain ⟨name, g'⟩ := y
    obtain ⟨rfl, lower⟩ := first
    obtain ⟨here, still⟩ := List.forall_mem_cons.mp still
    obtain ⟨own, larger⟩ := List.forall_mem_cons.mp larger
    obtain ⟨changed, moved, moves, all⟩ := ih still larger
    rw [moveUnnamed, any_eq_isSome_lookup, moves]
    split
    · exact ⟨changed, _, rfl, .cons ⟨rfl, lower⟩ all⟩
    case isFalse unnamed =>
      have free : named.lookup name = none := Option.not_isSome_iff_eq_none.mp unnamed
      have sameBound : (Number.real bound).eq (.real g.floor.limit) = true := here
      obtain ⟨moves, g'', updated, next⟩ := lower.update_more sameBound
        (Rate.create_of_isShare rate.inRange) (own free) now
      rw [updated]
      exact ⟨_, _, rfl, .cons ⟨rfl, next⟩ all⟩

private theorem moveNamed_more {maxOperations : Number} {q : Progress}
    (below : List.Forall₂ EntryBelow xs q.old) (unentered : q.new = [])
    (still : ∀ entry ∈ xs, bound.eq entry.2.floor.limit = true)
    (larger : ∀ operation ∈ named, ∀ g, find? operation.1 xs = some g →
      operation.2.IsShare ∧ g.rate.value.le operation.2 = true)
    (room : ∀ operation ∈ named, find? operation.1 xs = none → hasRoom maxOperations xs = false) :
    ∃ q', moveNamed maxOperations bound now named q = (none, q') ∧
      List.Forall₂ EntryBelow xs q'.old ∧ q'.new = [] := by
  induction named generalizing q with
  | nil => exact ⟨q, rfl, below, unentered⟩
  | cons operation rest ih =>
    obtain ⟨name, rate⟩ := operation
    obtain ⟨here, larger⟩ := List.forall_mem_cons.mp larger
    obtain ⟨full, room⟩ := List.forall_mem_cons.mp room
    rw [moveNamed]
    have there := rel_find? below name
    generalize found : find? name xs = left, find? name q.old = right at there
    cases there with
    | @some g g' lower =>
      obtain ⟨share, larger'⟩ := here g found
      have sameBound : (Number.real bound).eq (.real g.floor.limit) = true :=
        still _ (mem_of_find? found)
      obtain ⟨changed, g'', updated, next⟩ := lower.update_more sameBound
        (Rate.create_of_isShare share) larger' now
      dsimp only
      rw [updated]
      exact ih (forall₂_set_right below found next) unentered larger room
    | none =>
      have crowded : hasRoom maxOperations (q.old ++ q.new) = false := by
        have size := below.length_eq
        unfold hasRoom at full ⊢
        rw [unentered, List.append_nil, ← size]
        exact full found
      dsimp only
      rw [crowded]
      exact ih below unentered larger room

private theorem Below.after_more (below : t.Below t') (raises : Raises p t) (now : Number) :
    t.Below (t'.after (.update now p)) := by
  obtain ⟨capacity, lowerBound, rate, entries⟩ := below
  obtain ⟨bounded, ⟨share, larger⟩, bounds, rates, room⟩ := raises
  have defaults : t.defaultRate.value.le (if !p.defaultRate.eq t'.defaultRate.value
      then ⟨p.defaultRate, share⟩ else t'.defaultRate : Rate).value = true := by
    rw [Rate.le_iff_share, share_kept ⟨p.defaultRate, share⟩]
    exact Rate.le_iff_share.mp larger
  have free : ∀ entry ∈ t.entries, (explicitRates p.operations).lookup entry.1 = none →
      entry.2.rate.value.le p.defaultRate = true := by
    intro entry m unnamed
    have own := (rates entry m).2
    rwa [OperationParameters.rateOf, ← lookup_explicitRates, unnamed, Option.getD_none] at own
  have listed : ∀ operation ∈ explicitRates p.operations, ∀ g,
      find? operation.1 t.entries = some g →
      operation.2.IsShare ∧ g.rate.value.le operation.2 = true := by
    intro operation m g found
    rw [← rateOf_of_mem m]
    exact rates _ (mem_of_find? found)
  have crowded : ∀ operation ∈ explicitRates p.operations,
      find? operation.1 t.entries = none → hasRoom t.maxOperations t.entries = false := by
    intro operation m absent
    have named := (names_explicitRates operation.1).mp (List.mem_map_of_mem m)
    exact (room _ named).resolve_left (find?_eq_none_iff.mp absent)
  obtain ⟨changed, moved, moves, all⟩ := moveUnnamed_more now p.defaultLowerBound
    ⟨p.defaultRate, share⟩ entries bounds free
  obtain ⟨q, takes, all, unentered⟩ := moveNamed_more now p.defaultLowerBound
    (q := { old := moved }) all rfl bounds listed crowded
  unfold after OperationTable.update
  dsimp only
  rw [Rate.create_of_isShare share]
  dsimp only
  rw [capacity, lowerBound, moves, bounded]
  dsimp only
  rw [takes]
  refine ⟨rfl, rfl, defaults, ?_⟩
  dsimp only
  rw [unentered, List.append_nil]
  exact all

end Updates

private theorem Lifts.answersTo {t t' : OperationTable} {calls calls' : List Call}
    (lifts : t.Lifts calls calls') (below : t.Below t') (asked : String) :
    List.Forall₂ (Abreast SamplingStatus.StaysSampled) (t.answersTo asked calls)
      (t'.answersTo asked calls') := by
  induction lifts generalizing t' with
  | done => exact .nil
  | @question t now operation traceId calls calls' rest ih =>
    have later := ih (below.after_sample now operation traceId)
    unfold OperationTable.answersTo answer?
    dsimp only
    split
    · exact .cons ((below.sample now operation traceId).map fun _ _ both => both.1) later
    · exact later
  | update raised rest ih => exact ih (below.update _ raised).2
  | more raises rest ih => exact ih (below.after_more raises _)

end OperationTable

/-- A larger share samples all that a smaller one does, of identifiers of any size. So a larger
share in the place of a smaller one never turns a trace that was sampled into one that is not:
neither above a floor, from the start or in any update that leaves the limit alone, nor as the rate
of an operation or the default rate in a table. What is not answered in one run is not answered in
the other, and the samplers that are made of larger shares are above those that are made of smaller.
-/
theorem staysSampled_at_larger_rates :
    (∀ r r' : Rate, r.value.le r'.value = true → ∀ traceId : Int,
      (r.sample traceId).StaysSampled (r'.sample traceId)) ∧
    (∀ rate rate' bound start : Number, rate.Raised rate' →
      Abreast Guaranteed.Below (Guaranteed.create rate bound start)
        (Guaranteed.create rate' bound start)) ∧
    (∀ (g g' : Guaranteed) (calls calls' : List Guaranteed.Call), g.Below g' →
      g.Lifts calls calls' →
      List.Forall₂ (Abreast SamplingStatus.StaysSampled) (g.answers calls) (g'.answers calls')) ∧
    (∀ (capacity start : Number) (p p' : OperationParameters), OperationTable.Raised p p' →
      Abreast OperationTable.Below (OperationTable.create capacity p start).1
        (OperationTable.create capacity p' start).1) ∧
    ∀ (t t' : OperationTable) (calls calls' : List OperationTable.Call), t.Below t' →
      t.Lifts calls calls' → ∀ operation : String,
      List.Forall₂ (Abreast SamplingStatus.StaysSampled) (t.answersTo operation calls)
        (t'.answersTo operation calls') :=
  ⟨fun _ _ larger _ => Rate.covers_mono (Rate.le_iff_share.mp larger),
    fun _ _ bound start raised => Guaranteed.create_below raised bound start,
    fun _ _ _ _ below lifts => lifts.answers below,
    fun capacity start _ _ raised => OperationTable.create_below start capacity raised,
    fun _ _ _ _ below lifts operation => lifts.answersTo below operation⟩

/-- All traces of a cart and of all else, with a floor of one trace a second. -/
def everyCart : OperationParameters := ⟨.one, .one, [("cart", .one)]⟩

/-- A cart that was sampled at a thousandth, at all, and at all after a while. -/
theorem cart_sampled_at_all : ∃ all, Rate.create (.integer 1) = .ok all ∧
    (Rate.standard.sample (-3)).StaysSampled (all.sample (-3)) ∧
    (∃ g g', Guaranteed.create (.integer 0) (.integer 1) (.integer 0) = .ok g ∧
      Guaranteed.create (.integer 1) (.integer 1) (.integer 0) = .ok g' ∧
      List.Forall₂ (Abreast SamplingStatus.StaysSampled)
        (g.answers [.sample (.integer 1) "cart" 7, .sample (.integer 2) "cart" 8])
        (g'.answers [.sample (.integer 1) "cart" 7,
          .update (.integer 1) (.truth true) (.real .one), .sample (.integer 2) "cart" 8])) ∧
    List.Forall₂ (Abreast SamplingStatus.StaysSampled)
      (OperationTable.cartTable.answersTo "cart"
        [.sample (.integer 1) "cart" 7, .sample (.integer 2) "cart" 8])
      (OperationTable.cartTable.answersTo "cart" [.update (.integer 1) everyCart,
        .sample (.integer 1) "cart" 7, .sample (.integer 2) "cart" 8]) := by
  obtain ⟨single, made, guaranteed, -, tables⟩ := staysSampled_at_larger_rates
  obtain ⟨all, whole⟩ : ∃ all, Rate.create (.integer 1) = .ok all := ⟨_, rfl⟩
  have value : all.value = .one := by
    cases whole
    rfl
  have truth : Rate.create (.truth true) = .ok all := by
    rw [← whole]
    rfl
  have zero : Rate.create (.integer 0) = .ok ⟨.zero false, by decide +kernel⟩ := rfl
  have largest (r : Rate) : r.value.le all.value = true := by
    rw [value]
    exact (Bool.and_eq_true_iff.mp r.inRange).2
  refine ⟨all, whole, single _ _ (largest _) _, ?_, ?_⟩
  · have below := made (.integer 0) (.integer 1) (.integer 1) (.integer 0)
      (.larger zero whole (largest _))
    obtain ⟨g, left⟩ : ∃ g, Guaranteed.create (.integer 0) (.integer 1) (.integer 0) = .ok g :=
      ⟨_, rfl⟩
    obtain ⟨g', right⟩ : ∃ g', Guaranteed.create (.integer 1) (.integer 1) (.integer 0) = .ok g' :=
      ⟨_, rfl⟩
    rw [left, right] at below
    have limit : (Number.real .one).eq
        (.real (g.after (.sample (.integer 1) "cart" 7)).floor.limit) = true := by
      cases left
      decide +kernel
    cases below with
    | ok below =>
      refine ⟨g, g', left, right, guaranteed g g' _ _ below ?_⟩
      exact .question (.more limit truth (largest _) (.question .done))
  · have own (t : OperationTable) : t.Below t :=
      ⟨rfl, rfl, Rate.le_iff_share.mpr le_rfl, List.forall₂_same.mpr fun _ _ =>
        ⟨rfl, Rate.le_iff_share.mpr le_rfl, rfl⟩⟩
    have share : Binary64.one.IsShare := by
      unfold Binary64.IsShare
      decide +kernel
    have raises : OperationTable.Raises everyCart OperationTable.cartTable := by
      refine ⟨by decide +kernel, ⟨share, by decide +kernel⟩, ?_, ?_, ?_⟩
      · exact List.forall_mem_singleton.mpr (by decide +kernel)
      · exact List.forall_mem_singleton.mpr ⟨share, by decide +kernel⟩
      · exact fun name named => .inl named
    exact tables _ _ _ _ (own _) (.more raises (.question (.question .done))) "cart"

end Tracing
