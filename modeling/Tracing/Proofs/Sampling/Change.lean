import Tracing.Proofs.Sampling.Repetition
/-!
What an update of a table says of itself is true: it reports no change where it leaves the table as
it is, and a change where the table after it is unequal to the one before.
-/

set_option autoImplicit false
set_option relaxedAutoImplicit false

namespace Tracing

theorem Number.extended?_eq_of_eq {m n : Number} (h : m.eq n = true) :
    m.extended? = n.extended? := by
  unfold eq at h
  cases left : m.extended? with
  | none =>
    rw [left] at h
    cases h
  | some a =>
    cases right : n.extended? with
    | none =>
      rw [left, right] at h
      cases h
    | some b =>
      rw [left, right] at h
      rw [beq_iff_eq.mp h]

private theorem Guaranteed.eq_of_update_false {g g' : Guaranteed} {rate bound now : Number}
    (h : g.update rate bound now = .ok (false, g')) : g' = g := by
  obtain ⟨quiet, share, floor⟩ := parts_of_ok h
  obtain ⟨sameRate, sameBound⟩ :
      rate.eq (.real g.rate.value) = true ∧ bound.eq (.real g.floor.limit) = true := by
    simpa using quiet
  rw [if_pos sameRate] at share
  rw [if_pos sameBound] at floor
  show Guaranteed.mk g'.rate g'.floor = g
  rw [share, floor]

namespace OperationTable

section Unchanged

variable {named : List (String × Binary64)} {bound : Binary64} {now : Number}

private theorem eq_of_moveUnnamed_false {rate : Rate} {entries moved : List (String × Guaranteed)}
    (h : moveUnnamed named rate bound now entries = (.ok false, moved)) : moved = entries := by
  induction entries generalizing moved with
  | nil =>
    cases h
    rfl
  | cons entry rest ih =>
    obtain ⟨k, g⟩ := entry
    rw [moveUnnamed] at h
    cases later : moveUnnamed named rate bound now rest with
    | mk result rest' =>
    rw [later] at h
    split at h
    case isTrue =>
      cases h
      rw [ih later]
    case isFalse =>
      cases updated : g.update (.real rate.value) (.real bound) now with
      | error f =>
        rw [updated] at h
        cases h
      | ok done =>
        obtain ⟨changed, g'⟩ := done
        rw [updated] at h
        cases result with
        | error f => cases h
        | ok moves =>
          have parts := Prod.mk.inj h
          have quiet : (changed || moves) = false := Except.ok.inj parts.1
          rw [Bool.or_eq_false_iff] at quiet
          rw [quiet.1] at updated
          rw [quiet.2] at later
          rw [← parts.2, ih later, Guaranteed.eq_of_update_false updated]

private theorem eq_of_moveNamed_false {maxOperations : Number} {p q : Progress}
    (h : moveNamed maxOperations bound now named p = (none, q)) (quiet : q.changed = false) :
    p.changed = false ∧ q.old = p.old ∧ q.new = p.new := by
  induction named generalizing p with
  | nil =>
    cases h
    exact ⟨quiet, rfl, rfl⟩
  | cons entry rest ih =>
    obtain ⟨k, rate⟩ := entry
    rcases moveNamed_cons_cases h with ⟨g, changed, g', found, updated, later⟩ |
      ⟨g, absent, room, created, later⟩ | ⟨absent, full, later⟩
    · obtain ⟨unchanged, old, new⟩ := ih later
      have both : (p.changed || changed) = false := unchanged
      rw [Bool.or_eq_false_iff] at both
      rw [both.2] at updated
      have same : set k g' p.old = p.old := by
        rw [Guaranteed.eq_of_update_false updated]
        exact set_of_find? found
      exact ⟨both.1, old.trans same, new⟩
    · obtain ⟨unchanged, -, -⟩ := ih later
      cases unchanged
    · obtain ⟨unchanged, old, new⟩ := ih later
      exact ⟨unchanged, old, new⟩

end Unchanged

variable {t : OperationTable} {p : OperationParameters} {now : Number}

theorem eq_of_update_false (h : (t.update p now).result = .ok false) :
    (t.update p now).table = t := by
  have revises := t.revises_update p now
  generalize t.update p now = outcome at revises h ⊢
  cases revises with
  | unshared | stopped | interrupted => cases h
  | @finished rate changed moved q shared moves takes =>
    have quiet := Except.ok.inj h
    simp only [Bool.or_eq_false_iff] at quiet
    obtain ⟨⟨⟨newRate, newBound⟩, unnamed⟩, namedMoved⟩ := quiet
    rw [unnamed] at moves
    obtain ⟨-, old, new⟩ := eq_of_moveNamed_false takes namedMoved
    have none : q.new = [] := new
    have same : q.old = t.entries := old.trans (eq_of_moveUnnamed_false moves)
    simp [withDefaults, newRate, newBound, none, same]

/-- The names of two lists of which one has as many entries, and each under a name of the other. -/
theorem mem_names_of_length {xs ys : List (String × Guaranteed)}
    (distinct : (xs.map Prod.fst).Nodup) (among : ∀ entry ∈ xs, ∃ g, find? entry.1 ys = some g)
    (size : xs.length = ys.length) {name : String} :
    name ∈ xs.map Prod.fst ↔ name ∈ ys.map Prod.fst := by
  have subset : xs.map Prod.fst ⊆ ys.map Prod.fst := by
    intro k m
    obtain ⟨entry, there, rfl⟩ := List.mem_map.mp m
    obtain ⟨g, found⟩ := among entry there
    exact List.mem_map.mpr ⟨(entry.1, g), mem_of_find? found, rfl⟩
  have fewer : (ys.map Prod.fst).length ≤ (xs.map Prod.fst).length := by
    rw [List.length_map, List.length_map, size]
  have perm := (List.subperm_of_subset distinct subset).perm_of_length_le fewer
  exact perm.mem_iff

private theorem Conforms.of_beq {t' : OperationTable} (conforms : t'.Conforms p)
    (proper : t.IsProper)
    (same : (Sampler.perOperation t' == .perOperation t) = true) : t.Conforms p := by
  have parts : Sampler.beq (.perOperation t') (.perOperation t) = true := same
  unfold Sampler.beq at parts
  simp only [Bool.and_eq_true, beq_iff_eq, List.all_eq_true] at parts
  obtain ⟨⟨⟨⟨capacity, rate⟩, bound⟩, size⟩, entries⟩ := parts
  have follows := conforms.follows
  have among : ∀ entry ∈ t'.entries, ∃ g, find? entry.1 t.entries = some g := by
    intro entry m
    have equal := entries entry m
    cases found : find? entry.1 t.entries with
    | some g => exact ⟨g, rfl⟩
    | none =>
      rw [found] at equal
      cases equal
  have names : ∀ name, name ∈ t'.names ↔ name ∈ t.names :=
    fun name => mem_names_of_length conforms.proper.distinct among size
  refine ⟨proper, conforms.limit, ⟨?_, ?_, ?_⟩, ?_⟩
  · exact Binary64.eq_trans (Binary64.eq_symm rate) follows.rate
  · exact Binary64.eq_trans (Binary64.eq_symm bound) follows.bound
  · intro name own found
    have there : name ∈ t'.names := (names name).mpr (List.mem_map_of_mem (mem_of_find? found))
    obtain ⟨entry, m, rfl⟩ := List.mem_map.mp there
    have equal := entries entry m
    rw [found] at equal
    obtain ⟨rates, bounds⟩ := Bool.and_eq_true_iff.mp equal
    have conforming := follows.entries entry.1 entry.2 (find?_of_mem conforms.proper.distinct m)
    exact ⟨Binary64.eq_trans (Binary64.eq_symm rates) conforming.rate,
      Binary64.eq_trans (Binary64.eq_symm bounds) conforming.bound⟩
  · intro name named
    refine (conforms.covered name named).imp (names name).mp fun full => ?_
    unfold hasRoom Number.lt at full ⊢
    rw [← size, ← Number.extended?_eq_of_eq capacity]
    exact full

/-- The parameters that an update finds in force are those it does not apply. -/
theorem update_false_iff (sound : p.IsSound) (proper : t.IsProper) (now : Number) :
    (t.update p now).result = .ok false ↔ t.Conforms p := by
  constructor
  · intro quiet
    obtain ⟨fresh, updated⟩ := updated_of_update quiet
    have conforms := updated.conforms proper sound.bound
    rw [eq_of_update_false quiet] at conforms
    exact conforms
  · intro conforms
    obtain ⟨notices, same⟩ := update_of_conforms conforms sound.rate now
    rw [same]

/-- An update that reports a change leaves a table unequal to the one before. -/
theorem beq_of_update_true (sound : p.IsSound) (proper : t.IsProper)
    (changed : (t.update p now).result = .ok true) :
    (Sampler.perOperation (t.update p now).table == .perOperation t) = false := by
  obtain ⟨fresh, updated⟩ := updated_of_update changed
  have after := updated.conforms proper sound.bound
  by_contra same
  have before := after.of_beq proper (Bool.not_eq_false _ ▸ same)
  rw [(update_false_iff sound proper now).mpr before] at changed
  cases changed

end OperationTable

end Tracing
