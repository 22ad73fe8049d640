import Tracing.Proofs.Sampling.OperationUpdate
/-!
What a successful update does to a table, entry by entry. The rates of operations that find no place
are never looked at, so nothing is assumed of the rates given: an update that succeeds has used
shares alone.
-/

set_option autoImplicit false
set_option relaxedAutoImplicit false

namespace Tracing

theorem Number.extended?_of_toInt? {n : Number} {k : Int} (whole : n.toInt? = some k) :
    n.extended? = some (.value k) := by
  cases n with
  | integer m => simpa [toInt?, extended?] using whole
  | truth b =>
    cases b <;> simp [toInt?] at whole <;> simp [extended?, ← whole]
  | real x => cases whole

theorem Rate.value_of_create {x : Binary64} {rate : Rate} (h : create (.real x) = .ok rate) :
    rate.value = x := by
  simp only [create, ofNumber, Number.toBinary64?, ofBinary64?] at h
  split at h
  case h_1 made =>
    split at made
    · cases made
      cases h
      rfl
    · cases made
  case h_2 => cases h

/-- A limit that is taken is no less than zero and has a binary number, and its bucket is full. -/
theorem Throughput.parts_of_create {limit now : Number} {t : Throughput}
    (h : create limit now = .ok t) : limit.lt (.integer 0) = false ∧
      limit.toBinary64? = some t.limit ∧
      t.bucket = .full t.limit (Binary64.greatest .one t.limit) now := by
  unfold create at h
  split at h
  · cases h
  case isFalse above =>
    split at h
    · cases h
    case h_2 x place =>
      cases h
      exact ⟨Bool.eq_false_iff.mpr above, place, rfl⟩

theorem Throughput.limit_of_create {x : Binary64} {now : Number} {t : Throughput}
    (h : create (.real x) now = .ok t) : t.limit = x :=
  (Option.some_inj.mp (parts_of_create h).2.1).symm

namespace Guaranteed

variable {g g' : Guaranteed} {rate bound : Binary64} {now : Number}

theorem eq_of_create (h : create (.real rate) (.real bound) now = .ok g) :
    g.rate.value = rate ∧ g.floor.limit = bound := by
  obtain ⟨share, shared, h⟩ := ok_of_bind h
  obtain ⟨floor, limited, h⟩ := ok_of_bind h
  cases h
  exact ⟨Rate.value_of_create shared, Throughput.limit_of_create limited⟩

theorem follows_of_created (limit : bound.IsLimit)
    (h : create (.real rate) (.real bound) now = .ok g) : g.Follows rate bound := by
  obtain ⟨ownRate, ownBound⟩ := eq_of_create h
  have share : g.rate.value.IsShare := g.rate.inRange
  refine ⟨?_, ?_⟩
  · rw [← ownRate]
    exact share.isLimit.eq_refl
  · rw [ownBound]
    exact limit.eq_refl

/-- An update that succeeds keeps each part that has its number already, makes the other, and says
whether it made any. -/
theorem parts_of_ok {newRate newBound : Number} {changed : Bool}
    (h : g.update newRate newBound now = .ok (changed, g')) :
    changed = (!newRate.eq (.real g.rate.value) || !newBound.eq (.real g.floor.limit)) ∧
    (if newRate.eq (.real g.rate.value) = true then g'.rate = g.rate
      else Rate.create newRate = .ok g'.rate) ∧
    (if newBound.eq (.real g.floor.limit) = true then g'.floor = g.floor
      else Throughput.create newBound now = .ok g'.floor) := by
  unfold update at h
  cases sameRate : newRate.eq (.real g.rate.value) <;>
    cases sameBound : newBound.eq (.real g.floor.limit)
  · rw [sameRate, sameBound] at h
    obtain ⟨share, shared, h⟩ := ok_of_bind h
    obtain ⟨floor, limited, h⟩ := ok_of_bind h
    cases h
    exact ⟨rfl, shared, limited⟩
  · rw [sameRate, sameBound] at h
    obtain ⟨share, shared, h⟩ := ok_of_bind h
    cases h
    exact ⟨rfl, shared, rfl⟩
  · rw [sameRate, sameBound] at h
    obtain ⟨share, shared, h⟩ := ok_of_bind h
    obtain ⟨floor, limited, h⟩ := ok_of_bind h
    cases shared
    cases h
    exact ⟨rfl, rfl, limited⟩
  · rw [sameRate, sameBound] at h
    cases h
    exact ⟨rfl, rfl, rfl⟩

theorem parts_of_updated {changed : Bool}
    (h : g.update (.real rate) (.real bound) now = .ok (changed, g')) :
    (if rate.eq g.rate.value = true then g'.rate = g.rate
      else Rate.create (.real rate) = .ok g'.rate) ∧
    (if bound.eq g.floor.limit = true then g'.floor = g.floor
      else Throughput.create (.real bound) now = .ok g'.floor) :=
  (parts_of_ok h).2

theorem follows_of_updated {changed : Bool} (limit : bound.IsLimit)
    (h : g.update (.real rate) (.real bound) now = .ok (changed, g')) : g'.Follows rate bound := by
  obtain ⟨share, floor⟩ := parts_of_updated h
  constructor
  · split at share
    case isTrue same =>
      rw [share]
      exact Binary64.eq_symm same
    case isFalse =>
      have inRange : g'.rate.value.IsShare := g'.rate.inRange
      rw [← Rate.value_of_create share]
      exact inRange.isLimit.eq_refl
  · split at floor
    case isTrue same =>
      rw [floor]
      exact Binary64.eq_symm same
    case isFalse =>
      rw [Throughput.limit_of_create floor]
      exact limit.eq_refl

end Guaranteed

namespace OperationTable

section Entries

variable {name : String} {xs : List (String × Guaranteed)}

theorem find?_eq_none_iff : find? name xs = none ↔ name ∉ xs.map Prod.fst := by
  induction xs with
  | nil => simp [find?]
  | cons x rest ih =>
    by_cases same : x.1 = name
    · simp [find?, same]
    · simp [find?, same, ih, Ne.symm same]

theorem mem_of_find? {g : Guaranteed} (found : find? name xs = some g) : (name, g) ∈ xs := by
  induction xs with
  | nil => cases found
  | cons x rest ih =>
    obtain ⟨k, own⟩ := x
    by_cases same : k = name
    · simp only [find?, same, if_true, Option.some.injEq] at found
      rw [same, found]
      exact List.mem_cons_self
    · simp only [find?, same, if_false] at found
      exact List.mem_cons_of_mem _ (ih found)

theorem find?_of_mem {g : Guaranteed} (distinct : (xs.map Prod.fst).Nodup)
    (m : (name, g) ∈ xs) : find? name xs = some g := by
  induction xs with
  | nil => cases m
  | cons x rest ih =>
    obtain ⟨apart, distinct⟩ := List.nodup_cons.mp distinct
    rcases List.mem_cons.mp m with rfl | later
    · simp [find?]
    · have differ : x.1 ≠ name := by
        rintro rfl
        exact apart (List.mem_map.mpr ⟨_, later, rfl⟩)
      simpa [find?, differ] using ih distinct later

@[simp] theorem length_set (entry : Guaranteed) : (set name entry xs).length = xs.length := by
  induction xs with
  | nil => rfl
  | cons x rest ih =>
    by_cases same : x.1 = name
    · simp [set, same]
    · simp [set, same, ih]

@[simp] theorem names_set (entry : Guaranteed) :
    (set name entry xs).map Prod.fst = xs.map Prod.fst := by
  induction xs with
  | nil => rfl
  | cons x rest ih =>
    by_cases same : x.1 = name
    · simp [set, same]
    · simp [set, same, ih]

end Entries

section Room

variable {maxOperations : Number} {xs ys : List (String × Guaranteed)}

theorem hasRoom_iff {n : Int} (whole : maxOperations.toInt? = some n) :
    hasRoom maxOperations xs = true ↔ (xs.length : Int) < n := by
  have place : maxOperations.extended? = some (.value n) := Number.extended?_of_toInt? whole
  have size : (Number.integer xs.length).extended? = some (.value (xs.length : Int)) := rfl
  simp only [hasRoom, Number.lt, place, size, Extended.blt, decide_eq_true_eq, Int.cast_lt]

theorem isFull_iff {n : Int} (whole : maxOperations.toInt? = some n) :
    isFull maxOperations xs = true ↔ n ≤ (xs.length : Int) := by
  have place : maxOperations.extended? = some (.value n) := Number.extended?_of_toInt? whole
  have size : (Number.integer xs.length).extended? = some (.value (xs.length : Int)) := rfl
  simp only [isFull, Number.le, Number.lt, Number.eq, place, size, Extended.blt, Bool.or_eq_true,
    decide_eq_true_eq, Int.cast_lt, beq_iff_eq, Extended.value.injEq, Int.cast_inj,
    le_iff_lt_or_eq]

private theorem hasRoom_mono (shorter : xs.length ≤ ys.length)
    (room : hasRoom maxOperations ys = true) :
    hasRoom maxOperations xs = true := by
  have size (zs : List (String × Guaranteed)) :
      (Number.integer zs.length).extended? = some (.value (zs.length : Int)) := rfl
  unfold hasRoom Number.lt at room ⊢
  rw [size] at room ⊢
  cases place : maxOperations.extended? with
  | none =>
    rw [place] at room
    cases room
  | some a =>
    rw [place] at room
    cases a with
    | negInfinity => cases room
    | posInfinity => rfl
    | value q =>
      simp only [Extended.blt, decide_eq_true_eq] at room ⊢
      have less : ((xs.length : Int) : Rat) ≤ ((ys.length : Int) : Rat) := by
        exact_mod_cast shorter
      exact lt_of_le_of_lt less room

end Room

section Moves

variable {named : List (String × Binary64)} {bound : Binary64} {now : Number}

/-- Operations that are not named were updated to the defaults, and the others not at all. -/
structure Spread (named : List (String × Binary64)) (rate : Rate) (bound : Binary64)
    (now : Number) (before after : List (String × Guaranteed)) : Prop where
  names : after.map Prod.fst = before.map Prod.fst
  listed : ∀ name g, (named.lookup name).isSome = true → find? name before = some g →
    find? name after = some g
  free : ∀ name g, named.lookup name = none → find? name before = some g →
    ∃ changed g', g.update (.real rate.value) (.real bound) now = .ok (changed, g') ∧
      find? name after = some g'

theorem Spread.find?_listed {rate : Rate} {before after : List (String × Guaranteed)}
    {name : String} (spread : Spread named rate bound now before after)
    (listed : (named.lookup name).isSome = true) : find? name after = find? name before := by
  cases found : find? name before with
  | some g => exact spread.listed name g listed found
  | none =>
    rw [find?_eq_none_iff, spread.names]
    exact find?_eq_none_iff.mp found

theorem spread_of_moveUnnamed {rate : Rate} {changed : Bool}
    {before after : List (String × Guaranteed)}
    (h : moveUnnamed named rate bound now before = (.ok changed, after)) :
    Spread named rate bound now before after := by
  induction before generalizing changed after with
  | nil =>
    cases h
    exact ⟨rfl, fun _ _ _ found => found, fun _ _ _ found => by cases found⟩
  | cons entry rest ih =>
    obtain ⟨k, own⟩ := entry
    rw [moveUnnamed, any_eq_isSome_lookup] at h
    cases later : moveUnnamed named rate bound now rest with
    | mk result moved =>
    rw [later] at h
    split at h
    case isTrue there =>
      cases h
      obtain ⟨names, listed, free⟩ := ih later
      refine ⟨by simp [names], fun name g mentioned found => ?_, fun name g absent found => ?_⟩
      · by_cases same : k = name
        · simpa [find?, same] using found
        · simp only [find?, same, if_false] at found ⊢
          exact listed name g mentioned found
      · have differ : k ≠ name := by
          rintro rfl
          simp [absent] at there
        simp only [find?, differ, if_false] at found ⊢
        exact free name g absent found
    case isFalse unnamed =>
      cases updated : own.update (.real rate.value) (.real bound) now with
      | error f =>
        rw [updated] at h
        cases h
      | ok done =>
        obtain ⟨moves, own'⟩ := done
        rw [updated] at h
        cases result with
        | error f => cases h
        | ok c =>
          cases h
          obtain ⟨names, listed, free⟩ := ih later
          refine ⟨by simp [names], fun name g mentioned found => ?_,
            fun name g absent found => ?_⟩
          · have differ : k ≠ name := by
              rintro rfl
              exact unnamed mentioned
            simp only [find?, differ, if_false] at found ⊢
            exact listed name g mentioned found
          · by_cases same : k = name
            · simp only [find?, same, if_true, Option.some.injEq] at found ⊢
              subst found
              exact ⟨moves, own', updated, rfl⟩
            · simp only [find?, same, if_false] at found ⊢
              exact free name g absent found

/-- Named operations were updated where they had an entry and entered where there was room. -/
structure Placed (maxOperations : Number) (named : List (String × Binary64)) (bound : Binary64)
    (now : Number) (p q : Progress) (fresh : List (String × Guaranteed)) : Prop where
  entered : q.new = p.new ++ fresh
  names : q.old.map Prod.fst = p.old.map Prod.fst
  free : ∀ name, name ∉ named.map Prod.fst → find? name q.old = find? name p.old
  updated : ∀ entry ∈ named, ∀ g, find? entry.1 p.old = some g →
    ∃ changed g', g.update (.real entry.2) (.real bound) now = .ok (changed, g') ∧
      find? entry.1 q.old = some g'
  created : ∀ entry ∈ fresh, find? entry.1 p.old = none ∧ ∃ rate, (entry.1, rate) ∈ named ∧
    Guaranteed.create (.real rate) (.real bound) now = .ok entry.2
  distinct : (fresh.map Prod.fst).Nodup
  covered : ∀ name ∈ named.map Prod.fst, name ∈ (q.old ++ q.new).map Prod.fst ∨
    hasRoom maxOperations (q.old ++ q.new) = false
  bounded : ∀ n, maxOperations.toInt? = some n → ((p.old ++ p.new).length : Int) ≤ n →
    ((q.old ++ q.new).length : Int) ≤ n

/-- What a successful step does with the first named operation. -/
theorem moveNamed_cons_cases {maxOperations : Number} {name : String} {rate : Binary64}
    {rest : List (String × Binary64)} {p q : Progress}
    (h : moveNamed maxOperations bound now ((name, rate) :: rest) p = (none, q)) :
    (∃ g changed g', find? name p.old = some g ∧
        g.update (.real rate) (.real bound) now = .ok (changed, g') ∧
        moveNamed maxOperations bound now rest
          { p with old := set name g' p.old, changed := p.changed || changed } = (none, q)) ∨
      (∃ g, find? name p.old = none ∧ hasRoom maxOperations (p.old ++ p.new) = true ∧
        Guaranteed.create (.real rate) (.real bound) now = .ok g ∧
        moveNamed maxOperations bound now rest
          { p with new := p.new ++ [(name, g)], changed := true } = (none, q)) ∨
      find? name p.old = none ∧ hasRoom maxOperations (p.old ++ p.new) = false ∧
        moveNamed maxOperations bound now rest
          { p with notices := p.notices ++ [.capReached maxOperations name] } = (none, q) := by
  rw [moveNamed] at h
  cases there : find? name p.old with
  | some g =>
    rw [there] at h
    dsimp only at h
    cases updated : g.update (.real rate) (.real bound) now with
    | error f =>
      rw [updated] at h
      cases h
    | ok done =>
      rw [updated] at h
      exact .inl ⟨g, done.1, done.2, rfl, updated, h⟩
  | none =>
    rw [there] at h
    dsimp only at h
    cases room : hasRoom maxOperations (p.old ++ p.new) with
    | false =>
      rw [room] at h
      exact .inr (.inr ⟨rfl, rfl, h⟩)
    | true =>
      rw [room, if_pos rfl] at h
      cases created : Guaranteed.create (.real rate) (.real bound) now with
      | error f =>
        rw [created] at h
        cases h
      | ok g =>
        rw [created] at h
        exact .inr (.inl ⟨g, rfl, rfl, rfl, h⟩)

section Steps

variable {maxOperations : Number} {k : String} {rate : Binary64}
variable {rest : List (String × Binary64)} {p q : Progress} {fresh : List (String × Guaranteed)}

private theorem ne_of_apart (apart : k ∉ rest.map Prod.fst) {name : String}
    (m : name ∈ rest.map Prod.fst) : k ≠ name := by
  rintro rfl
  exact apart m

private theorem beside_of_not_mem {name : String} (m : name ∉ ((k, rate) :: rest).map Prod.fst) :
    k ≠ name ∧ name ∉ rest.map Prod.fst := by
  rw [List.map_cons, List.mem_cons, not_or] at m
  exact ⟨fun same => m.1 same.symm, m.2⟩

private theorem Placed.cons_update {g g' : Guaranteed} {changed moved : Bool}
    (apart : k ∉ rest.map Prod.fst) (found : find? k p.old = some g)
    (updated : g.update (.real rate) (.real bound) now = .ok (changed, g'))
    (later : Placed maxOperations rest bound now { p with old := set k g' p.old, changed := moved }
      q fresh) :
    Placed maxOperations ((k, rate) :: rest) bound now p q fresh := by
  have placed : find? k (set k g' p.old) = some g' := find?_set_self found
  refine ⟨later.entered, later.names.trans (names_set g'), fun name m => ?_, ?_, ?_,
    later.distinct, ?_, ?_⟩
  · obtain ⟨differ, m⟩ := beside_of_not_mem m
    rw [later.free name m, find?_set_other differ]
  · rintro e m own foundOwn
    rcases List.mem_cons.mp m with rfl | m
    · rw [found] at foundOwn
      cases foundOwn
      exact ⟨changed, g', updated, (later.free k apart).trans placed⟩
    · have differ : k ≠ e.1 := ne_of_apart apart (List.mem_map_of_mem m)
      exact later.updated e m own (by rw [find?_set_other differ, foundOwn])
  · intro e m
    obtain ⟨none, r, listed, made⟩ := later.created e m
    have differ : k ≠ e.1 := ne_of_apart apart (List.mem_map_of_mem listed)
    rw [find?_set_other differ] at none
    exact ⟨none, r, List.mem_cons_of_mem _ listed, made⟩
  · intro name m
    rcases List.mem_cons.mp m with same | m
    · left
      have there : name ∈ p.old.map Prod.fst := by
        by_contra missing
        rw [same] at missing
        rw [find?_eq_none_iff.mpr missing] at found
        cases found
      rw [List.map_append, later.names, names_set]
      exact List.mem_append_left _ there
    · exact later.covered name m
  · intro n whole fits
    refine later.bounded n whole ?_
    simpa using fits

private theorem updated_cons_of_absent {later : String × Binary64 → Guaranteed → Prop}
    (absent : find? k p.old = none)
    (updated : ∀ e ∈ rest, ∀ g, find? e.1 p.old = some g → later e g) :
    ∀ e ∈ (k, rate) :: rest, ∀ g, find? e.1 p.old = some g → later e g := by
  intro e m g found
  rcases List.mem_cons.mp m with rfl | m
  · rw [absent] at found
    cases found
  · exact updated e m g found

private theorem Placed.cons_enter {g : Guaranteed} {moved : Bool} (apart : k ∉ rest.map Prod.fst)
    (absent : find? k p.old = none) (room : hasRoom maxOperations (p.old ++ p.new) = true)
    (created : Guaranteed.create (.real rate) (.real bound) now = .ok g)
    (later : Placed maxOperations rest bound now
      { p with new := p.new ++ [(k, g)], changed := moved } q fresh) :
    Placed maxOperations ((k, rate) :: rest) bound now p q ((k, g) :: fresh) := by
  have entered : q.new = p.new ++ (k, g) :: fresh := by simpa using later.entered
  refine ⟨entered, later.names, fun name m => later.free name (beside_of_not_mem m).2,
    updated_cons_of_absent absent later.updated, ?_, ?_, ?_, ?_⟩
  · intro e m
    rcases List.mem_cons.mp m with rfl | m
    · exact ⟨absent, rate, List.mem_cons_self, created⟩
    · obtain ⟨none, r, listed, made⟩ := later.created e m
      exact ⟨none, r, List.mem_cons_of_mem _ listed, made⟩
  · refine List.nodup_cons.mpr ⟨fun again => ?_, later.distinct⟩
    obtain ⟨e, m, same⟩ := List.mem_map.mp again
    obtain ⟨-, r, listed, -⟩ := later.created e m
    have there : e.1 ∈ rest.map Prod.fst := List.mem_map_of_mem listed
    exact apart (by rwa [same] at there)
  · intro name m
    rcases List.mem_cons.mp m with same | m
    · left
      simp [entered, same]
    · exact later.covered name m
  · intro n whole fits
    have less := (hasRoom_iff whole).mp room
    refine later.bounded n whole ?_
    simp only [List.length_append, List.length_cons, List.length_nil] at less ⊢
    omega

private theorem Placed.cons_refuse {notices : List Notice} (absent : find? k p.old = none)
    (full : hasRoom maxOperations (p.old ++ p.new) = false)
    (later : Placed maxOperations rest bound now { p with notices } q fresh) :
    Placed maxOperations ((k, rate) :: rest) bound now p q fresh := by
  refine ⟨later.entered, later.names, fun name m => later.free name (beside_of_not_mem m).2,
    updated_cons_of_absent absent later.updated, ?_, later.distinct, ?_, later.bounded⟩
  · intro e m
    obtain ⟨none, r, listed, made⟩ := later.created e m
    exact ⟨none, r, List.mem_cons_of_mem _ listed, made⟩
  · intro name m
    rcases List.mem_cons.mp m with same | m
    · right
      by_contra room
      have longer : (p.old ++ p.new).length ≤ (q.old ++ q.new).length := by
        have same := congrArg List.length later.names
        have entered := later.entered
        simp only [List.length_map] at same
        simp only [List.length_append, entered, same]
        omega
      have room := hasRoom_mono longer (Bool.not_eq_false _ ▸ room)
      rw [full] at room
      cases room
    · exact later.covered name m

end Steps

theorem placed_of_moveNamed {maxOperations : Number} (distinct : (named.map Prod.fst).Nodup)
    {p q : Progress} (h : moveNamed maxOperations bound now named p = (none, q)) :
    ∃ fresh, Placed maxOperations named bound now p q fresh := by
  induction named generalizing p with
  | nil =>
    cases h
    exact ⟨[], by simp, rfl, fun _ _ => rfl, by simp, by simp, List.nodup_nil, by simp,
      fun _ _ kept => kept⟩
  | cons entry rest ih =>
    obtain ⟨k, rate⟩ := entry
    obtain ⟨apart, distinct⟩ := List.nodup_cons.mp distinct
    rcases moveNamed_cons_cases h with ⟨g, changed, g', found, updated, later⟩ |
      ⟨g, absent, room, created, later⟩ | ⟨absent, full, later⟩
    · obtain ⟨fresh, placed⟩ := ih distinct later
      exact ⟨fresh, placed.cons_update apart found updated⟩
    · obtain ⟨fresh, placed⟩ := ih distinct later
      exact ⟨(k, g) :: fresh, placed.cons_enter apart absent room created⟩
    · obtain ⟨fresh, placed⟩ := ih distinct later
      exact ⟨fresh, placed.cons_refuse absent full⟩

end Moves

/-- What a successful update leaves of a table. -/
structure Updated (t : OperationTable) (p : OperationParameters) (now : Number)
    (t' : OperationTable) (fresh : List (String × Guaranteed)) : Prop where
  capacity : t'.maxOperations = t.maxOperations
  rate : t'.defaultRate.value.eq p.defaultRate = true
  bound : p.defaultLowerBound.IsLimit → t'.lowerBound.eq p.defaultLowerBound = true
  kept : ∀ name g, find? name t.entries = some g → ∃ changed g',
    g.update (.real (p.rateOf name)) (.real p.defaultLowerBound) now = .ok (changed, g') ∧
      find? name t'.entries = some g'
  names : t'.entries.map Prod.fst = t.entries.map Prod.fst ++ fresh.map Prod.fst
  distinct : (fresh.map Prod.fst).Nodup
  created : ∀ entry ∈ fresh, entry ∈ t'.entries ∧ find? entry.1 t.entries = none ∧
    entry.1 ∈ p.operations.map Prod.fst ∧
      Guaranteed.create (.real (p.rateOf entry.1)) (.real p.defaultLowerBound) now = .ok entry.2
  covered : ∀ name ∈ p.operations.map Prod.fst,
    name ∈ t'.entries.map Prod.fst ∨ hasRoom t.maxOperations t'.entries = false
  bounded : ∀ n, t.maxOperations.toInt? = some n → (t.entries.length : Int) ≤ n →
    (t'.entries.length : Int) ≤ n

theorem names_explicitRates (name : String) {operations : List (String × Binary64)} :
    name ∈ (explicitRates operations).map Prod.fst ↔ name ∈ operations.map Prod.fst := by
  rw [mem_keys_iff, lookup_explicitRates, ← mem_keys_iff]
  simp

theorem rateOf_of_mem {p : OperationParameters} {entry : String × Binary64}
    (m : entry ∈ explicitRates p.operations) : p.rateOf entry.1 = entry.2 := by
  have found := lookup_of_mem (nodup_explicitRates p.operations) m
  rw [lookup_explicitRates] at found
  rw [OperationParameters.rateOf, found, Option.getD_some]

section Whole

variable {t : OperationTable} {p : OperationParameters} {now : Number}

/-- A table with new defaults, each of which takes the place of one that differs. -/
def withDefaults (t : OperationTable) (rate : Rate) (bound : Binary64) : OperationTable :=
  { t with
    defaultRate := if !rate.value.eq t.defaultRate.value then rate else t.defaultRate
    lowerBound := if !bound.eq t.lowerBound then bound else t.lowerBound }

/-- What an update can come to. -/
inductive Revises (t : OperationTable) (p : OperationParameters) (now : Number) : Outcome → Prop
  /-- The default rate is no share. -/
  | unshared {f : Fault} : Rate.create (.real p.defaultRate) = .error f →
      Revises t p now ⟨.error f, t, []⟩
  /-- An operation that is not named refuses the defaults. -/
  | stopped {rate : Rate} {f : Fault} {moved : List (String × Guaranteed)} :
      Rate.create (.real p.defaultRate) = .ok rate →
      moveUnnamed (explicitRates p.operations) rate p.defaultLowerBound now t.entries =
        (.error f, moved) →
      Revises t p now
        ⟨.error f, { t.withDefaults rate p.defaultLowerBound with entries := moved }, []⟩
  /-- A named operation refuses its rate. -/
  | interrupted {rate : Rate} {changed : Bool} {moved : List (String × Guaranteed)} {f : Fault}
      {q : Progress} : Rate.create (.real p.defaultRate) = .ok rate →
      moveUnnamed (explicitRates p.operations) rate p.defaultLowerBound now t.entries =
        (.ok changed, moved) →
      moveNamed t.maxOperations p.defaultLowerBound now (explicitRates p.operations)
        { old := moved } = (some f, q) →
      Revises t p now ⟨.error f, { t.withDefaults rate p.defaultLowerBound with entries := q.old },
        q.notices⟩
  | finished {rate : Rate} {changed : Bool} {moved : List (String × Guaranteed)} {q : Progress} :
      Rate.create (.real p.defaultRate) = .ok rate →
      moveUnnamed (explicitRates p.operations) rate p.defaultLowerBound now t.entries =
        (.ok changed, moved) →
      moveNamed t.maxOperations p.defaultLowerBound now (explicitRates p.operations)
        { old := moved } = (none, q) →
      Revises t p now ⟨.ok (!rate.value.eq t.defaultRate.value ||
          !p.defaultLowerBound.eq t.lowerBound || changed || q.changed),
        { t.withDefaults rate p.defaultLowerBound with entries := q.old ++ q.new }, q.notices⟩

theorem revises_update (t : OperationTable) (p : OperationParameters) (now : Number) :
    Revises t p now (t.update p now) := by
  unfold update
  cases shared : Rate.create (.real p.defaultRate) with
  | error f => exact .unshared shared
  | ok rate =>
    dsimp only
    cases moves : moveUnnamed (explicitRates p.operations) rate p.defaultLowerBound now t.entries
      with
    | mk result moved =>
    cases result with
    | error f => exact .stopped shared moves
    | ok changed =>
      dsimp only
      cases takes : moveNamed t.maxOperations p.defaultLowerBound now (explicitRates p.operations)
          { old := moved } with
      | mk fault q =>
      cases fault with
      | some f => exact .interrupted shared moves takes
      | none => exact .finished shared moves takes

private theorem parts_of_update {changed : Bool} (h : (t.update p now).result = .ok changed) :
    ∃ rate moved q fresh, rate.value = p.defaultRate ∧
      Spread (explicitRates p.operations) rate p.defaultLowerBound now t.entries moved ∧
      Placed t.maxOperations (explicitRates p.operations) p.defaultLowerBound now
        { old := moved } q fresh ∧
      (t.update p now).table =
        { maxOperations := t.maxOperations
          defaultRate := if !rate.value.eq t.defaultRate.value then rate else t.defaultRate
          lowerBound :=
            if !p.defaultLowerBound.eq t.lowerBound then p.defaultLowerBound else t.lowerBound
          entries := q.old ++ q.new } := by
  have revises := t.revises_update p now
  generalize t.update p now = outcome at revises h ⊢
  cases revises with
  | unshared | stopped | interrupted => cases h
  | @finished rate _ moved q shared moves takes =>
    obtain ⟨fresh, placed⟩ := placed_of_moveNamed (nodup_explicitRates p.operations) takes
    exact ⟨rate, moved, q, fresh, Rate.value_of_create shared, spread_of_moveUnnamed moves,
      placed, rfl⟩

variable {rate : Rate} {moved fresh : List (String × Guaranteed)} {q : Progress}

private theorem kept_of_parts (own : rate.value = p.defaultRate)
    (spread : Spread (explicitRates p.operations) rate p.defaultLowerBound now t.entries moved)
    (placed : Placed t.maxOperations (explicitRates p.operations) p.defaultLowerBound now
      { old := moved } q fresh) {name : String} {g : Guaranteed}
    (found : find? name t.entries = some g) :
    ∃ changed g',
      g.update (.real (p.rateOf name)) (.real p.defaultLowerBound) now = .ok (changed, g') ∧
        find? name (q.old ++ q.new) = some g' := by
  cases listed : (explicitRates p.operations).lookup name with
  | none =>
    have unnamed : name ∉ (explicitRates p.operations).map Prod.fst := by
      rw [mem_keys_iff, listed]
      simp
    have standard : p.rateOf name = p.defaultRate := by
      rw [OperationParameters.rateOf, ← lookup_explicitRates, listed, Option.getD_none]
    obtain ⟨c, g', updated, there⟩ := spread.free name g listed found
    refine ⟨c, g', ?_, ?_⟩
    · rw [standard, ← own]
      exact updated
    · rw [find?_append, placed.free name unnamed, there, Option.some_or]
  | some r =>
    obtain ⟨before, after, split, -⟩ := List.lookup_eq_some_iff.mp listed
    have m : (name, r) ∈ explicitRates p.operations := by simp [split]
    have still := spread.listed name g (by rw [listed]; rfl) found
    obtain ⟨c, g', updated, there⟩ := placed.updated (name, r) m g still
    refine ⟨c, g', ?_, ?_⟩
    · rw [rateOf_of_mem m]
      exact updated
    · rw [find?_append, there, Option.some_or]

private theorem eq_of_kept {new old : Binary64} (itself : new.eq new = true) :
    (if !new.eq old then new else old).eq new = true := by
  cases same : new.eq old with
  | false => exact itself
  | true => exact Binary64.eq_symm same

theorem updated_of_update {changed : Bool} (h : (t.update p now).result = .ok changed) :
    ∃ fresh, Updated t p now (t.update p now).table fresh := by
  obtain ⟨rate, moved, q, fresh, own, spread, placed, table⟩ := parts_of_update h
  have entered : q.new = fresh := by simpa using placed.entered
  rw [table]
  refine ⟨fresh, rfl, ?_, fun limit => eq_of_kept limit.eq_refl,
    fun name g found => kept_of_parts own spread placed found, ?_, placed.distinct, ?_,
    fun name m => placed.covered name ((names_explicitRates name).mpr m), ?_⟩
  · have inRange : rate.value.IsShare := rate.inRange
    have kept : (if !rate.value.eq t.defaultRate.value then rate.value
        else t.defaultRate.value).eq rate.value = true := eq_of_kept inRange.isLimit.eq_refl
    rw [← own]
    simpa only [apply_ite Rate.value] using kept
  · show (q.old ++ q.new).map Prod.fst = _
    rw [List.map_append, placed.names, spread.names, entered]
  · intro entry m
    obtain ⟨none, r, listed, made⟩ := placed.created entry m
    have unmoved : entry.1 ∉ t.entries.map Prod.fst := by
      rw [← spread.names]
      exact find?_eq_none_iff.mp none
    refine ⟨?_, find?_eq_none_iff.mpr unmoved, ?_, ?_⟩
    · show entry ∈ q.old ++ q.new
      rw [entered]
      exact List.mem_append_right _ m
    · exact (names_explicitRates entry.1).mp (List.mem_map_of_mem listed)
    · rw [rateOf_of_mem listed]
      exact made
  · intro n whole fits
    refine placed.bounded n whole ?_
    have same := congrArg List.length spread.names
    simp only [List.length_map] at same
    simpa [same] using fits

end Whole

end OperationTable

end Tracing
