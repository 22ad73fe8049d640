import Tracing.Proofs.Sampling.TableRun
/-!
What a refused update leaves behind. A share with its floor is left as it was. A table refuses no
parameters that were read; of parameters that were never read it may refuse the rest midway, and
then every entry is either as it was or moved whole.
-/

set_option autoImplicit false
set_option relaxedAutoImplicit false

namespace Tracing

private theorem Guaranteed.run_revise (g : Guaranteed) (rate lowerBound now : Number) :
    (revise rate lowerBound now).run g =
      match g.update rate lowerBound now with
      | .ok (changed, g') => .ok changed g'
      | .error f => .error f g := by
  have before : (get : EStateM Fault Guaranteed Guaranteed).run g = .ok g g := rfl
  unfold revise update
  rw [EStateM.run_bind, before]
  dsimp only
  cases rate.eq (.real g.rate.value) with
  | true =>
    cases lowerBound.eq (.real g.floor.limit) with
    | true => rfl
    | false => cases Throughput.create lowerBound now <;> rfl
  | false =>
    cases Rate.create rate with
    | error f => rfl
    | ok share =>
      cases lowerBound.eq (.real g.floor.limit) with
      | true => rfl
      | false => cases Throughput.create lowerBound now <;> rfl

namespace OperationTable

section Midway

variable {p : OperationParameters} {now : Number}

/-- An entry is as it was, or was moved whole to what the parameters say for its operation. -/
inductive Moved (p : OperationParameters) (now : Number) :
    String × Guaranteed → String × Guaranteed → Prop where
  | kept (entry : String × Guaranteed) : Moved p now entry entry
  | whole {name : String} {g g' : Guaranteed} {changed : Bool}
      (updated : g.update (.real (p.rateOf name)) (.real p.defaultLowerBound) now =
        .ok (changed, g')) : Moved p now (name, g) (name, g')

private theorem Moved.all_kept (entries : List (String × Guaranteed)) :
    List.Forall₂ (Moved p now) entries entries :=
  List.forall₂_same.mpr fun entry _ => .kept entry

private theorem Moved.names {xs ys : List (String × Guaranteed)}
    (all : List.Forall₂ (Moved p now) xs ys) :
    ys.map Prod.fst = xs.map Prod.fst := by
  induction all with
  | nil => rfl
  | cons first _ ih =>
    rw [List.map_cons, List.map_cons, ih]
    cases first <;> rfl

private theorem Moved.set {xs ys : List (String × Guaranteed)} {name : String} {g g' : Guaranteed}
    {changed : Bool} (all : List.Forall₂ (Moved p now) xs ys) (found : find? name xs = some g)
    (updated : g.update (.real (p.rateOf name)) (.real p.defaultLowerBound) now =
      .ok (changed, g')) :
    List.Forall₂ (Moved p now) xs (set name g' ys) := by
  induction all with
  | nil => cases found
  | @cons x y _ _ first rest ih =>
    obtain ⟨k, own⟩ := x
    obtain ⟨k', own'⟩ := y
    obtain rfl : k' = k := by cases first <;> rfl
    unfold find? at found
    unfold OperationTable.set
    split at found
    case isTrue same =>
      cases found
      cases same
      rw [if_pos rfl]
      exact .cons (.whole updated) rest
    case isFalse differ =>
      rw [if_neg differ]
      exact .cons first (ih found)

private theorem forall_moved_moveUnnamed (now : Number) {named : List (String × Binary64)}
    {rate : Rate}
    (standard : ∀ name, named.lookup name = none → p.rateOf name = rate.value)
    (entries : List (String × Guaranteed)) :
    List.Forall₂ (Moved p now) entries
      (moveUnnamed named rate p.defaultLowerBound now entries).2 := by
  induction entries with
  | nil => exact .nil
  | cons entry rest ih =>
    obtain ⟨name, g⟩ := entry
    rw [moveUnnamed, any_eq_isSome_lookup]
    split
    · exact .cons (.kept _) ih
    case isFalse unnamed =>
      have free : named.lookup name = none := Option.not_isSome_iff_eq_none.mp unnamed
      cases updated : g.update (.real rate.value) (.real p.defaultLowerBound) now with
      | error f => exact Moved.all_kept _
      | ok done =>
        rw [← standard name free] at updated
        exact .cons (.whole updated) ih

/-- Each operation is named once, so the entry that it finds has not been touched, and `Moved` need
not be transitive. -/
private theorem forall_moved_moveNamed (maxOperations : Number) {start : List (String × Guaranteed)}
    {named : List (String × Binary64)} (distinct : (named.map Prod.fst).Nodup)
    (rates : ∀ entry ∈ named, p.rateOf entry.1 = entry.2) (q : Progress)
    (all : List.Forall₂ (Moved p now) start q.old)
    (untouched : ∀ entry ∈ named, find? entry.1 q.old = find? entry.1 start) :
    List.Forall₂ (Moved p now) start
      (moveNamed maxOperations p.defaultLowerBound now named q).2.old := by
  induction named generalizing q with
  | nil => exact all
  | cons entry rest ih =>
    obtain ⟨name, rate⟩ := entry
    obtain ⟨fresh, distinct⟩ := List.nodup_cons.mp distinct
    obtain ⟨own, rates⟩ := List.forall_mem_cons.mp rates
    obtain ⟨here, untouched⟩ := List.forall_mem_cons.mp untouched
    dsimp only at own here
    rw [moveNamed]
    cases found : find? name q.old with
    | some g =>
      dsimp only
      cases updated : g.update (.real rate) (.real p.defaultLowerBound) now with
      | error f => exact all
      | ok done =>
        obtain ⟨changed, g'⟩ := done
        rw [← own] at updated
        refine ih distinct rates _ (Moved.set all (here.symm.trans found) updated)
          fun entry m => ?_
        have differ : name ≠ entry.1 := by
          intro same
          exact fresh (List.mem_map.mpr ⟨entry, m, same.symm⟩)
        rw [find?_set_other differ]
        exact untouched entry m
    | none =>
      dsimp only
      split
      · cases Guaranteed.create (.real rate) (.real p.defaultLowerBound) now with
        | error f => exact all
        | ok g => exact ih distinct rates _ all untouched
      · exact ih distinct rates _ all untouched

/-- What is left of a table: its capacity and operations are those it had, each default is the old
or the new one, and no entry is torn. -/
structure Midway (t : OperationTable) (p : OperationParameters) (now : Number)
    (t' : OperationTable) : Prop where
  capacity : t'.maxOperations = t.maxOperations
  rate : t'.defaultRate = t.defaultRate ∨ t'.defaultRate.value = p.defaultRate
  bound : t'.lowerBound = t.lowerBound ∨ t'.lowerBound = p.defaultLowerBound
  entries : List.Forall₂ (Moved p now) t.entries t'.entries

theorem Midway.names {t t' : OperationTable} (midway : Midway t p now t') : t'.names = t.names :=
  Moved.names midway.entries

private theorem Midway.of_entries {t : OperationTable} {rate : Rate}
    {entries : List (String × Guaranteed)}
    (own : rate.value = p.defaultRate) (all : List.Forall₂ (Moved p now) t.entries entries) :
    Midway t p now { t.withDefaults rate p.defaultLowerBound with entries } where
  capacity := rfl
  rate := (ite_eq_or_eq _ _ _).symm.imp_right fun new => (congrArg Rate.value new).trans own
  bound := (ite_eq_or_eq _ _ _).symm
  entries := all

theorem midway_of_refused {t : OperationTable} {f : Fault}
    (h : (t.update p now).result = .error f) : Midway t p now (t.update p now).table := by
  have swept : ∀ rate : Rate, rate.value = p.defaultRate → List.Forall₂ (Moved p now) t.entries
      (moveUnnamed (explicitRates p.operations) rate p.defaultLowerBound now t.entries).2 := by
    intro rate own
    refine forall_moved_moveUnnamed now ?_ t.entries
    intro name free
    rw [OperationParameters.rateOf, ← lookup_explicitRates, free, Option.getD_none, own]
  have revises := t.revises_update p now
  generalize t.update p now = outcome at revises h ⊢
  cases revises with
  | unshared => exact ⟨rfl, .inl rfl, .inl rfl, Moved.all_kept _⟩
  | stopped shared moves =>
    have own := Rate.value_of_create shared
    have all := swept _ own
    rw [moves] at all
    exact .of_entries own all
  | @interrupted rate _ moved _ _ shared moves takes =>
    have own := Rate.value_of_create shared
    have all := swept rate own
    rw [moves] at all
    -- The first pass went by the named operations, so the second finds each as it was.
    have untouched : ∀ entry ∈ explicitRates p.operations,
        find? entry.1 moved = find? entry.1 t.entries := by
      intro entry m
      have listed := lookup_of_mem (nodup_explicitRates p.operations) m
      exact (spread_of_moveUnnamed moves).find?_listed (by rw [listed]; rfl)
    have named := forall_moved_moveNamed t.maxOperations (nodup_explicitRates p.operations)
      (fun entry m => rateOf_of_mem m) { old := moved } all untouched
    rw [takes] at named
    exact .of_entries own named
  | finished => cases h

end Midway

end OperationTable

/-- An update that is refused changes nothing: a share with its floor is left as it was, and a table
refuses no parameters that were read. -/
theorem unchanged_of_refused :
    (∀ (g : Guaranteed) (rate lowerBound now : Number),
      (∀ changed g', g.update rate lowerBound now = .ok (changed, g') →
        (Guaranteed.revise rate lowerBound now).run g = .ok changed g') ∧
      ∀ f, g.update rate lowerBound now = .error f →
        (Guaranteed.revise rate lowerBound now).run g = .error f g) ∧
    ∀ (t : OperationTable) (medium : Medium) (v : Json) (p : OperationParameters) (now : Number),
      Strategy.readParameters medium v = .ok p →
      (∀ f, (t.update p now).result = .error f → (t.update p now).table = t) ∧
      ∃ changed, (t.update p now).result = .ok changed := by
  refine ⟨fun g rate lowerBound now => ⟨fun changed g' went => ?_, fun f refused => ?_⟩,
    fun t medium v p now read => ?_⟩
  · rw [Guaranteed.run_revise, went]
  · rw [Guaranteed.run_revise, refused]
  · obtain ⟨changed, t', notices, updated, -⟩ :=
      t.follows_of_update (Strategy.isSound_of_readParameters read) now
    rw [updated]
    refine ⟨fun f refused => ?_, changed, rfl⟩
    cases refused

namespace OperationTable

def mostly : OperationParameters :=
  ⟨.finite false 6755399441055744 (-53) (by decide), .one, []⟩

/-- A table that has met two operations since it was made for three. -/
def halfFull : Option OperationTable :=
  (create (.integer 3) mostly (.integer 0)).1.toOption.map fun t =>
    t.run [.sample (.integer 0) "a" 1, .sample (.integer 0) "b" 1]

theorem two_refused_and_mostly_taken :
    (∃ g, Guaranteed.create (.integer 1) (.integer 1) (.integer 0) = .ok g ∧
      (Guaranteed.revise (.integer 2) (.integer 3) (.integer 0)).run g =
        .error (.failure (.rateOutOfRange (.integer 2))) g) ∧
    ∃ t changed, halfFull = some t ∧ (t.update mostly (.integer 0)).result = .ok changed := by
  constructor
  · refine ⟨_, rfl, ?_⟩
    exact (unchanged_of_refused.1 _ (.integer 2) (.integer 3) (.integer 0)).2 _ rfl
  · have read : Strategy.readParameters .memory (Strategy.parametersJson mostly) = .ok mostly := rfl
    obtain ⟨-, changed, went⟩ :=
      unchanged_of_refused.2 _ .memory (Strategy.parametersJson mostly) mostly (.integer 0) read
    exact ⟨_, changed, rfl, went⟩

/-- Every fourth trace, all of one operation, and for another no rate at all. -/
def torn : OperationParameters :=
  ⟨.finite false 4503599627370496 (-54) (by decide),
    .finite false 4503599627370496 (-51) (by decide), [("a", .one), ("b", .nan)]⟩

/-- No number of these parameters is below or above a bound by comparison. They are refused where
they are read; a table that gets them unread has moved its defaults and its first operation before
it comes to the second. -/
theorem half_applied_unread :
    ∃ t, halfFull = some t ∧
      (∀ entry ∈ torn.operations,
        entry.2.lt (.zero false) = false ∧ Binary64.one.lt entry.2 = false) ∧
      (∀ medium, Strategy.readParameters medium (Strategy.parametersJson torn) =
        .error [⟨[.member "perOperationStrategies", .item 1, .member "probabilisticSampling",
          .member "samplingRate"], .outOfBounds (.atMost 1)⟩]) ∧
      (t.update torn (.integer 0)).result = .error (.failure (.rateOutOfRange (.real .nan))) ∧
      (t.update torn (.integer 0)).table.lowerBound ≠ t.lowerBound ∧
      ((find? "a" t.entries).map fun g => g.rate.value) = some mostly.defaultRate ∧
      ((find? "a" (t.update torn (.integer 0)).table.entries).map fun g => g.rate.value) =
        some .one ∧
      ((find? "b" (t.update torn (.integer 0)).table.entries).map fun g => g.rate.value) =
        some mostly.defaultRate := by
  refine ⟨_, rfl, by decide, fun medium => ?_, rfl, ?_, rfl, rfl, rfl⟩
  · cases medium <;> rfl
  · decide +kernel

end OperationTable

end Tracing
