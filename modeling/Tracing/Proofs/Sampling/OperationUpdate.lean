import Mathlib.Data.List.Nodup
import Tracing.Proofs.Sampling.Validity
/-!
What an update leaves in a table of operations. The defaults are those of the parameters, every
operation in the table has the rate that its last mention gives it, or the default rate where it
has no mention, and no operation has left the table.
-/

set_option autoImplicit false
set_option relaxedAutoImplicit false

namespace Tracing

theorem Number.not_le_zero {n : Number} (h : (Number.integer 1).le n = true) :
    n.le (.integer 0) = false := by
  unfold le lt eq at h ⊢
  cases e : n.extended? with
  | none => rfl
  | some a =>
    rw [e] at h
    cases a with
    | negInfinity => cases h
    | posInfinity => rfl
    | value q =>
      have above : 1 ≤ q := by
        simpa [extended?, Extended.blt, le_iff_lt_or_eq] using h
      have positive : 0 < q := lt_of_lt_of_le zero_lt_one above
      simp [extended?, Extended.blt, positive.le, positive.ne']

/-- The rate of an operation: that of its last mention, or the default rate. -/
def OperationParameters.rateOf (p : OperationParameters) (name : String) : Binary64 :=
  (p.operations.reverse.lookup name).getD p.defaultRate

private theorem OperationParameters.IsSound.isShare_rateOf {p : OperationParameters} (h : p.IsSound)
    (name : String) : (p.rateOf name).IsShare := by
  unfold OperationParameters.rateOf
  cases e : p.operations.reverse.lookup name with
  | none => exact h.rate
  | some rate =>
    obtain ⟨later, earlier, split, -⟩ := List.lookup_eq_some_iff.mp e
    have member : (name, rate) ∈ p.operations.reverse := by simp [split]
    exact h.operations (name, rate) (List.mem_reverse.mp member)

namespace Guaranteed

/-- A share and a floor that equal given numbers. -/
structure Follows (g : Guaranteed) (rate bound : Binary64) : Prop where
  rate : g.rate.value.eq rate = true
  bound : g.floor.limit.eq bound = true

variable {rate bound : Binary64}

theorem follows_of_create (share : rate.IsShare) (limit : bound.IsLimit) (now : Number) :
    ∃ g, create (.real rate) (.real bound) now = .ok g ∧ g.Follows rate bound := by
  obtain ⟨t, made, same⟩ := Throughput.create_of_isLimit limit now
  have created : create (.real rate) (.real bound) now = .ok ⟨⟨rate, share⟩, t⟩ := by
    unfold create
    rw [Rate.create_of_isShare share, made]
    rfl
  refine ⟨_, created, ⟨share.isLimit.eq_refl, ?_⟩⟩
  rw [same]
  exact limit.eq_refl

/-- An update to a share and a limit succeeds, and the sampler follows them. -/
theorem follows_of_update (g : Guaranteed) (share : rate.IsShare) (limit : bound.IsLimit)
    (now : Number) :
    ∃ changed g', g.update (.real rate) (.real bound) now = .ok (changed, g') ∧
      g'.Follows rate bound := by
  obtain ⟨t, made, limited⟩ := Throughput.create_of_isLimit limit now
  have ownRate : rate.eq rate = true := share.isLimit.eq_refl
  have ownBound : t.limit.eq bound = true := by
    rw [limited]
    exact limit.eq_refl
  unfold update
  rw [Rate.create_of_isShare share, made]
  cases sameRate : (Number.real rate).eq (.real g.rate.value) <;>
    cases sameBound : (Number.real bound).eq (.real g.floor.limit)
  · exact ⟨_, _, rfl, ownRate, ownBound⟩
  · exact ⟨_, _, rfl, ownRate, Binary64.eq_symm sameBound⟩
  · exact ⟨_, _, rfl, Binary64.eq_symm sameRate, ownBound⟩
  · exact ⟨_, _, rfl, Binary64.eq_symm sameRate, Binary64.eq_symm sameBound⟩

end Guaranteed

namespace OperationTable

section Entries

variable {name : String} {xs ys : List (String × Guaranteed)}

theorem find?_append : find? name (xs ++ ys) = (find? name xs).or (find? name ys) := by
  induction xs with
  | nil => rfl
  | cons x rest ih =>
    by_cases same : x.1 = name
    · simp [find?, same]
    · simp [find?, same, ih]

theorem find?_set_self {entry g : Guaranteed} (h : find? name xs = some g) :
    find? name (set name entry xs) = some entry := by
  induction xs with
  | nil => cases h
  | cons x rest ih =>
    by_cases same : x.1 = name
    · simp [set, find?, same]
    · simp only [find?, same, if_false] at h
      simp [set, find?, same, ih h]

theorem find?_set_other {other : String} {entry : Guaranteed} (differ : name ≠ other) :
    find? other (set name entry xs) = find? other xs := by
  induction xs with
  | nil => rfl
  | cons x rest ih =>
    by_cases same : x.1 = name
    · have apart : x.1 ≠ other := fun e => differ (same.symm.trans e)
      simp [set, find?, same, differ]
    · simp [set, find?, same, ih]

end Entries

section Mentions

variable {done operations : List (String × Binary64)} {operation : String × Binary64}

theorem any_eq_isSome_lookup (name : String) :
    (done.any fun (k, _) => k = name) = (done.lookup name).isSome := by
  induction done with
  | nil => rfl
  | cons x rest ih =>
    obtain ⟨k, rate⟩ := x
    rw [List.any_cons, List.lookup_cons, ih]
    by_cases same : k = name
    · simp [same]
    · have apart : (name == k) = false := by simpa using fun e => same e.symm
      simp [same, apart]

theorem mem_keys_iff {name : String} :
    name ∈ done.map Prod.fst ↔ (done.lookup name).isSome = true := by
  rw [← any_eq_isSome_lookup]
  simp

private theorem lookup_alone (name : String) :
    [operation].lookup name = if name = operation.1 then some operation.2 else none := by
  obtain ⟨k, r⟩ := operation
  rw [List.lookup_cons, List.lookup_nil]
  by_cases same : name = k
  · simp [same]
  · have apart : (name == k) = false := beq_eq_false_iff_ne.mpr same
    simp [same, apart]

private theorem lookup_retake (name : String) :
    (done.map fun (k, r) => if k = operation.1 then (k, operation.2) else (k, r)).lookup name =
      if name = operation.1 then (done.lookup name).map fun _ => operation.2
      else done.lookup name := by
  induction done with
  | nil => simp
  | cons x rest ih =>
    obtain ⟨k, r⟩ := x
    rw [List.map_cons, List.lookup_cons]
    by_cases first : k = operation.1
    · simp only [first, if_true, List.lookup_cons, ih]
      by_cases same : name = operation.1
      · simp [same]
      · have apart : (name == operation.1) = false := beq_eq_false_iff_ne.mpr same
        simp [same, apart]
    · simp only [first, if_false, List.lookup_cons, ih]
      cases meets : name == k with
      | false => rfl
      | true =>
        have apart : name ≠ operation.1 := fun e => first ((beq_iff_eq.mp meets).symm.trans e)
        simp [apart]

private theorem lookup_mention (name : String) :
    (mention done operation).lookup name =
      if name = operation.1 then some operation.2 else done.lookup name := by
  unfold mention
  rw [any_eq_isSome_lookup]
  split
  case isTrue there =>
    rw [lookup_retake]
    split
    case isTrue same =>
      obtain ⟨r, found⟩ := Option.isSome_iff_exists.mp there
      rw [same, found]
      rfl
    case isFalse => rfl
  case isFalse absent =>
    have missing : done.lookup operation.1 = none := Option.not_isSome_iff_eq_none.mp absent
    rw [List.lookup_append, lookup_alone]
    by_cases same : name = operation.1
    · simp [same, missing]
    · simp [same]

private theorem nodup_mention (h : (done.map Prod.fst).Nodup) :
    ((mention done operation).map Prod.fst).Nodup := by
  unfold mention
  rw [any_eq_isSome_lookup]
  split
  case isTrue =>
    have keys : (done.map fun (k, r) => if k = operation.1 then (k, operation.2)
        else (k, r)).map Prod.fst = done.map Prod.fst := by
      rw [List.map_map]
      refine List.map_congr_left fun x _ => ?_
      simp only [Function.comp_apply]
      split <;> rfl
    rw [keys]
    exact h
  case isFalse absent =>
    have fresh : operation.1 ∉ done.map Prod.fst := fun m => absent (mem_keys_iff.mp m)
    rw [List.map_append, List.map_singleton]
    refine List.nodup_append.mpr ⟨h, List.nodup_singleton _, fun k m k' m' same => fresh ?_⟩
    rw [← List.mem_singleton.mp m', ← same]
    exact m

private theorem lookup_foldl_mention (name : String) :
    (operations.foldl mention done).lookup name =
      (operations.reverse.lookup name).or (done.lookup name) := by
  induction operations generalizing done with
  | nil => rfl
  | cons operation rest ih =>
    rw [List.foldl_cons, ih, lookup_mention, List.reverse_cons, List.lookup_append, lookup_alone,
      Option.or_assoc]
    split <;> rfl

private theorem nodup_foldl_mention (h : (done.map Prod.fst).Nodup) :
    ((operations.foldl mention done).map Prod.fst).Nodup := by
  induction operations generalizing done with
  | nil => exact h
  | cons operation rest ih => exact ih (nodup_mention h)

theorem lookup_explicitRates (name : String) :
    (explicitRates operations).lookup name = operations.reverse.lookup name := by
  unfold explicitRates
  rw [lookup_foldl_mention, List.lookup_nil, Option.or_none]

theorem lookup_of_mem (distinct : (done.map Prod.fst).Nodup) (m : operation ∈ done) :
    done.lookup operation.1 = some operation.2 := by
  induction done with
  | nil => cases m
  | cons x rest ih =>
    obtain ⟨k, r⟩ := x
    obtain ⟨apart, distinct⟩ := List.nodup_cons.mp distinct
    rw [List.lookup_cons]
    rcases List.mem_cons.mp m with rfl | later
    · simp
    · have differ : operation.1 ≠ k :=
        fun same => apart (List.mem_map.mpr ⟨operation, later, same⟩)
      rw [beq_eq_false_iff_ne.mpr differ]
      exact ih distinct later

theorem nodup_explicitRates (operations : List (String × Binary64)) :
    ((explicitRates operations).map Prod.fst).Nodup :=
  nodup_foldl_mention List.nodup_nil

end Mentions

section Moves

variable {bound : Binary64}

private theorem moveUnnamed_moves (named : List (String × Binary64)) (rate : Rate)
    (limit : bound.IsLimit) (now : Number) (entries : List (String × Guaranteed)) :
    ∃ changed moved, moveUnnamed named rate bound now entries = (.ok changed, moved) ∧
      (∀ name, (find? name moved).isSome = (find? name entries).isSome) ∧
      (∀ name, named.lookup name = none →
        ∀ g, find? name moved = some g → g.Follows rate.value bound) := by
  induction entries with
  | nil => exact ⟨false, [], rfl, fun _ => rfl, fun _ _ _ found => by cases found⟩
  | cons entry rest ih =>
    obtain ⟨k, g⟩ := entry
    obtain ⟨changed, moved, e, present, follow⟩ := ih
    unfold moveUnnamed
    rw [any_eq_isSome_lookup]
    split
    case isTrue there =>
      rw [e]
      refine ⟨changed, (k, g) :: moved, rfl, fun name => ?_, fun name free g' found => ?_⟩
      · by_cases same : k = name
        · simp [find?, same]
        · simp [find?, same, present]
      · have apart : k ≠ name := by
          rintro rfl
          simp [free] at there
        simp only [find?, apart, if_false] at found
        exact follow name free g' found
    case isFalse =>
      obtain ⟨moves, g', updated, follows⟩ :=
        Guaranteed.follows_of_update g rate.inRange limit now
      rw [updated, e]
      refine ⟨moves || changed, (k, g') :: moved, rfl, fun name => ?_,
        fun name free other found => ?_⟩
      · by_cases same : k = name
        · simp [find?, same]
        · simp [find?, same, present]
      · by_cases same : k = name
        · simp only [find?, same, if_true, Option.some.injEq] at found
          exact found ▸ follows
        · simp only [find?, same, if_false] at found
          exact follow name free other found

private theorem moveNamed_cons (maxOperations : Number) {name : String} {rate : Binary64}
    (share : rate.IsShare) (limit : bound.IsLimit) (now : Number)
    (rest : List (String × Binary64)) {p : Progress} (fresh : find? name p.new = none) :
    ∃ q, moveNamed maxOperations bound now ((name, rate) :: rest) p =
        moveNamed maxOperations bound now rest q ∧
      (∀ other, name ≠ other →
        find? other q.old = find? other p.old ∧ find? other q.new = find? other p.new) ∧
      (find? name q.old).isSome = (find? name p.old).isSome ∧
      (∀ g, find? name (q.old ++ q.new) = some g → g.Follows rate bound) := by
  rw [moveNamed]
  cases there : find? name p.old with
  | some g =>
    obtain ⟨changed, g', updated, follows⟩ := Guaranteed.follows_of_update g share limit now
    have placed : find? name (set name g' p.old) = some g' := find?_set_self there
    dsimp only
    rw [updated]
    refine ⟨_, rfl, fun other differ => ⟨find?_set_other differ, rfl⟩, ?_, fun other found => ?_⟩
    · rw [placed]
      rfl
    · rw [find?_append, placed, Option.some_or] at found
      cases found
      exact follows
  | none =>
    dsimp only
    split
    case isTrue =>
      obtain ⟨g, created, follows⟩ := Guaranteed.follows_of_create share limit now
      rw [created]
      refine ⟨_, rfl, fun other differ => ⟨rfl, ?_⟩, ?_, fun other found => ?_⟩
      · rw [find?_append]
        simp [find?, differ]
      · rw [there]
      · have placed : find? name (p.new ++ [(name, g)]) = some g := by
          rw [find?_append, fresh]
          simp [find?]
        rw [find?_append, there, placed] at found
        cases found
        exact follows
    case isFalse =>
      refine ⟨_, rfl, fun other differ => ⟨rfl, rfl⟩, ?_, fun other found => ?_⟩
      · rw [there]
      · rw [find?_append, there, fresh] at found
        cases found

private theorem moveNamed_moves (maxOperations : Number) (limit : bound.IsLimit) (now : Number)
    {named : List (String × Binary64)} (distinct : (named.map Prod.fst).Nodup)
    (shares : ∀ entry ∈ named, entry.2.IsShare) (p : Progress)
    (fresh : ∀ name ∈ named.map Prod.fst, find? name p.new = none) :
    ∃ q, moveNamed maxOperations bound now named p = (none, q) ∧
      (∀ name, name ∉ named.map Prod.fst →
        find? name q.old = find? name p.old ∧ find? name q.new = find? name p.new) ∧
      (∀ name, (find? name q.old).isSome = (find? name p.old).isSome) ∧
      (∀ entry ∈ named, ∀ g, find? entry.1 (q.old ++ q.new) = some g →
        g.Follows entry.2 bound) := by
  induction named generalizing p with
  | nil => exact ⟨p, rfl, fun _ _ => ⟨rfl, rfl⟩, fun _ => rfl, fun _ m => absurd m List.not_mem_nil⟩
  | cons entry rest ih =>
    obtain ⟨k, rate⟩ := entry
    obtain ⟨apart, distinct⟩ := List.nodup_cons.mp distinct
    obtain ⟨p', step, others, kept, follows⟩ := moveNamed_cons maxOperations
      (shares (k, rate) List.mem_cons_self) limit now rest (fresh k List.mem_cons_self)
    have differs : ∀ {name}, name ∈ rest.map Prod.fst → k ≠ name := by
      rintro name m rfl
      exact apart m
    obtain ⟨q, run, unnamed, present, named⟩ := ih distinct
      (fun entry m => shares entry (List.mem_cons_of_mem _ m)) p'
      (fun name m => (others name (differs m)).2.trans (fresh name (List.mem_cons_of_mem _ m)))
    refine ⟨q, step.trans run, fun name m => ?_, fun name => ?_, fun entry m g found => ?_⟩
    · have here := others name fun same => m (same ▸ List.mem_cons_self)
      have there := unnamed name fun later => m (List.mem_cons_of_mem _ later)
      exact ⟨there.1.trans here.1, there.2.trans here.2⟩
    · rw [present name]
      by_cases same : k = name
      · rw [← same, kept]
      · rw [(others name same).1]
    · rcases List.mem_cons.mp m with rfl | m
      · -- the names are distinct, so nothing that comes later touches this entry
        have still := unnamed k apart
        rw [find?_append, still.1, still.2, ← find?_append] at found
        exact follows g found
      · exact named entry m g found

end Moves

/-- A table whose numbers are those of parameters: the defaults, and the entry of every operation
in it. -/
structure Follows (t : OperationTable) (p : OperationParameters) : Prop where
  rate : t.defaultRate.value.eq p.defaultRate = true
  bound : t.lowerBound.eq p.defaultLowerBound = true
  entries : ∀ name g, find? name t.entries = some g → g.Follows (p.rateOf name) p.defaultLowerBound

/-- An update to sound parameters succeeds. The table then follows them, and no operation has left
it. -/
theorem follows_of_update (t : OperationTable) {p : OperationParameters} (sound : p.IsSound)
    (now : Number) :
    ∃ changed t' notices, t.update p now = ⟨.ok changed, t', notices⟩ ∧ t'.Follows p ∧
      ∀ name, (find? name t.entries).isSome = true → (find? name t'.entries).isSome = true := by
  have distinct := nodup_explicitRates p.operations
  have rates : ∀ name rate, (explicitRates p.operations).lookup name = some rate →
      p.rateOf name = rate := by
    intro name rate found
    rw [lookup_explicitRates] at found
    rw [OperationParameters.rateOf, found, Option.getD_some]
  have shares : ∀ entry ∈ explicitRates p.operations, entry.2.IsShare := by
    intro entry m
    rw [← rates entry.1 entry.2 (lookup_of_mem distinct m)]
    exact sound.isShare_rateOf entry.1
  obtain ⟨moves, moved, movedUnnamed, present, unnamed⟩ := moveUnnamed_moves
    (explicitRates p.operations) ⟨p.defaultRate, sound.rate⟩ sound.bound now t.entries
  obtain ⟨q, movedNamed, others, kept, named⟩ := moveNamed_moves t.maxOperations
    sound.bound now distinct shares { old := moved } (fun _ _ => rfl)
  have ownRate : p.defaultRate.eq p.defaultRate = true := sound.rate.isLimit.eq_refl
  have ownBound : p.defaultLowerBound.eq p.defaultLowerBound = true := sound.bound.eq_refl
  unfold update
  rw [Rate.create_of_isShare sound.rate]
  dsimp only
  rw [movedUnnamed]
  dsimp only
  rw [movedNamed]
  refine ⟨_, _, _, rfl, ⟨?_, ?_, fun name g found => ?_⟩, fun name there => ?_⟩
  · cases same : p.defaultRate.eq t.defaultRate.value with
    | false => exact ownRate
    | true => exact Binary64.eq_symm same
  · cases same : p.defaultLowerBound.eq t.lowerBound with
    | false => exact ownBound
    | true => exact Binary64.eq_symm same
  · cases listed : (explicitRates p.operations).lookup name with
    | some rate =>
      obtain ⟨before, after, split, -⟩ := List.lookup_eq_some_iff.mp listed
      rw [rates name rate listed]
      exact named (name, rate) (by simp [split]) g found
    | none =>
      have absent : name ∉ (explicitRates p.operations).map Prod.fst := by
        rw [mem_keys_iff, listed]
        exact Bool.false_ne_true
      have same := others name absent
      have standard : p.rateOf name = p.defaultRate := by
        rw [OperationParameters.rateOf, ← lookup_explicitRates, listed, Option.getD_none]
      rw [find?_append, same.1, same.2, find?, Option.or_none] at found
      rw [standard]
      exact unnamed name listed g found
  · rw [find?_append]
    have still : (find? name q.old).isSome = true :=
      (kept name).trans ((present name).trans there)
    rw [Option.isSome_or, still, Bool.true_or]

/-- A table made from sound parameters, with room for one operation at least, follows them. -/
theorem follows_of_create {maxOperations : Number} {p : OperationParameters} (sound : p.IsSound)
    (room : (Number.integer 1).le maxOperations = true) (now : Number) :
    ∃ t notices, create maxOperations p now = (.ok t, notices) ∧ t.Follows p := by
  obtain ⟨changed, t, notices, updated, follows, -⟩ := follows_of_update
    ⟨maxOperations, ⟨p.defaultRate, sound.rate⟩, p.defaultLowerBound, []⟩ sound now
  have positive : maxOperations.le (.integer 0) = false := Number.not_le_zero room
  refine ⟨t, notices, ?_, follows⟩
  unfold create
  rw [positive, Rate.create_of_isShare sound.rate]
  simp only [updated]
  rfl

end OperationTable

end Tracing
