import Tracing.Proofs.Sampling.Equivalence
/-!
Updates of a table told from outside: what they report, whom they let in, and which buckets they
leave alone. Operations are let in in the order in which the parameters mention them first, as long
as there is room, and an update that is made again finds nothing to do.
-/

set_option autoImplicit false
set_option relaxedAutoImplicit false

namespace Tracing

private theorem Guaranteed.floor_eq_of_limit {g g' : Guaranteed} {rate bound : Binary64}
    {now : Number}
    {changed : Bool} (h : g.update (.real rate) (.real bound) now = .ok (changed, g'))
    (same : g'.floor.limit.eq g.floor.limit = true) : g'.floor = g.floor := by
  obtain ⟨-, floor⟩ := parts_of_updated h
  split at floor
  case isTrue => exact floor
  case isFalse differs =>
    rw [Throughput.limit_of_create floor] at same
    exact absurd same differs

namespace OperationTable

section Mentions

private theorem names_mention (done : List (String × Binary64)) (operation : String × Binary64) :
    (mention done operation).map Prod.fst =
      if operation.1 ∈ done.map Prod.fst then done.map Prod.fst
      else done.map Prod.fst ++ [operation.1] := by
  unfold mention
  rw [any_eq_isSome_lookup]
  by_cases there : operation.1 ∈ done.map Prod.fst
  · have known : (done.lookup operation.1).isSome = true := mem_keys_iff.mp there
    rw [if_pos known, if_pos there, List.map_map]
    refine List.map_congr_left fun x _ => ?_
    simp only [Function.comp_apply]
    split <;> rfl
  · have unknown : ¬ (done.lookup operation.1).isSome = true := mt mem_keys_iff.mpr there
    rw [if_neg unknown, if_neg there, List.map_append]
    rfl

private theorem map_fst_explicitRates (operations : List (String × Binary64)) :
    (explicitRates operations).map Prod.fst = (operations.map Prod.fst).eraseDups := by
  induction operations using List.reverseRecOn with
  | nil => rfl
  | append_singleton earlier operation ih =>
    have taken : explicitRates (earlier ++ [operation]) =
        mention (explicitRates earlier) operation := by
      unfold explicitRates
      rw [List.foldl_append]
      rfl
    rw [taken, names_mention, ih, List.map_append, List.eraseDups_append]
    by_cases there : operation.1 ∈ earlier.map Prod.fst
    · simp [there, List.removeAll]
    · simp [there, List.removeAll, List.eraseDups_cons]

end Mentions

section Room

variable {maxOperations : Number} {n : Int} {bound : Binary64} {now : Number}

/-- The operations that come in are the first of those without an entry, as many as there is room
for. -/
private theorem names_new_of_moveNamed (whole : maxOperations.toInt? = some n)
    {named : List (String × Binary64)} {p q : Progress}
    (h : moveNamed maxOperations bound now named p = (none, q)) :
    q.new.map Prod.fst = p.new.map Prod.fst ++
      ((named.map Prod.fst).filter (· ∉ p.old.map Prod.fst)).take
        (n - (p.old ++ p.new).length).toNat := by
  induction named generalizing p with
  | nil =>
    cases h
    simp
  | cons entry rest ih =>
    obtain ⟨k, rate⟩ := entry
    rcases moveNamed_cons_cases h with ⟨g, changed, g', found, updated, later⟩ |
      ⟨g, absent, room, created, later⟩ | ⟨absent, full, later⟩
    · have there : k ∈ p.old.map Prod.fst := List.mem_map_of_mem (mem_of_find? found)
      have entered := ih later
      simp only [names_set, List.length_append, length_set] at entered
      rw [entered, List.map_cons, List.filter_cons_of_neg (by simpa using there)]
      simp only [List.length_append]
    · have missing : k ∉ p.old.map Prod.fst := find?_eq_none_iff.mp absent
      have spare := (hasRoom_iff whole).mp room
      have places : (n - (p.old ++ p.new).length).toNat =
          (n - (p.old ++ (p.new ++ [(k, g)])).length).toNat + 1 := by
        simp only [List.length_append, List.length_singleton] at spare ⊢
        omega
      rw [ih later, List.map_cons, List.filter_cons_of_pos (by simpa using missing), places,
        List.take_succ_cons, List.map_append, List.append_assoc]
      rfl
    · have reached : (n - (p.old ++ p.new).length).toNat = 0 := by
        have none : ¬ ((p.old ++ p.new).length : Int) < n := by
          rw [← hasRoom_iff whole, full]
          exact Bool.false_ne_true
        omega
      have entered := ih later
      rw [reached, List.take_zero] at entered ⊢
      exact entered

end Room

section Whole

variable {t : OperationTable} {p : OperationParameters} {now : Number} {n : Int}

private theorem names_of_update (whole : t.maxOperations.toInt? = some n) {changed : Bool}
    (h : (t.update p now).result = .ok changed) :
    (t.update p now).table.names = t.names ++
      ((p.operations.map Prod.fst).eraseDups.filter (· ∉ t.names)).take
        (n - t.names.length).toNat := by
  have revises := t.revises_update p now
  generalize t.update p now = outcome at revises h ⊢
  cases revises with
  | unshared | stopped | interrupted => cases h
  | @finished rate _ moved q shared moves takes =>
    obtain ⟨fresh, placed⟩ := placed_of_moveNamed (nodup_explicitRates p.operations) takes
    have kept : moved.map Prod.fst = t.names := (spread_of_moveUnnamed moves).names
    have size : moved.length = t.names.length := by
      rw [← kept, List.length_map]
    have entered := names_new_of_moveNamed whole takes
    rw [map_fst_explicitRates] at entered
    show (q.old ++ q.new).map Prod.fst = _
    rw [List.map_append, placed.names, entered, kept]
    simp [size]

private theorem Conforms.isValue (conforms : t.Conforms p) : (Sampler.perOperation t).IsValue := by
  have numeric : ∀ {x y : Binary64}, x.eq y = true → x.extended? ≠ none := by
    intro x y same
    obtain ⟨a, place, -⟩ := Binary64.eq_iff.mp same
    rw [place]
    exact Option.some_ne_none a
  refine ⟨conforms.proper.distinct, conforms.proper.number, numeric conforms.follows.bound, ?_⟩
  intro entry m
  have found := find?_of_mem conforms.proper.distinct m
  exact numeric (conforms.follows.entries entry.1 entry.2 found).bound

/-- In every state that a table can be in, an update to parameters that were read goes through. It
reports no change if and only if the table after it equals the one before, which is then the same
to the last bucket. The operations after it are those before it and the first that the parameters
mention without an entry, as many as there is room for; an entry whose limit stays keeps its
bucket, and the same update made again changes nothing and says so. -/
theorem reports_and_admits_of_reached {given : Number → Prop}
    (reached : (Sampler.perOperation t).Reached given) (whole : t.maxOperations.toInt? = some n)
    (sound : p.IsSound) (now : Number) :
    ∃ changed t' notices, t.update p now = ⟨.ok changed, t', notices⟩ ∧
      (changed = false ↔ (Sampler.perOperation t' == .perOperation t) = true) ∧
      (changed = false → t' = t) ∧
      t'.names = t.names ++
        ((p.operations.map Prod.fst).eraseDups.filter (· ∉ t.names)).take
          (n - t.names.length).toNat ∧
      (∀ name g, find? name t.entries = some g → ∃ g', find? name t'.entries = some g' ∧
        (g'.floor.limit.eq g.floor.limit = true → g'.floor.bucket = g.floor.bucket)) ∧
      ∀ later, ∃ notices', t'.update p later = ⟨.ok false, t', notices'⟩ := by
  have proper : t.IsProper := by
    refine ⟨?_, Sampler.isKeyed_of_reached reached⟩
    rw [Number.extended?_of_toInt? whole]
    exact Option.some_ne_none _
  obtain ⟨changed, t', notices, went, -, -⟩ := t.follows_of_update sound now
  have result : (t.update p now).result = .ok changed := by rw [went]
  have table : (t.update p now).table = t' := by rw [went]
  obtain ⟨fresh, updated⟩ := updated_of_update result
  have conforms := updated.conforms proper sound.bound
  have names := names_of_update whole result
  have unchanged : changed = false → t' = t := by
    rintro rfl
    rw [← table]
    exact eq_of_update_false result
  rw [table] at updated conforms names
  refine ⟨changed, t', notices, went, ⟨fun quiet => ?_, fun same => ?_⟩, unchanged, names, ?_,
    fun later => update_of_conforms conforms sound.rate later⟩
  · have value := conforms.isValue
    rw [← unchanged quiet]
    exact (Sampler.beq_iff_terms value.keyed value.keyed value.numeric).mpr rfl
  · cases changed with
    | false => rfl
    | true =>
      have differs := beq_of_update_true sound proper result
      rw [table, same] at differs
      cases differs
  · intro name g found
    obtain ⟨moved, g', renewed, there⟩ := updated.kept name g found
    refine ⟨g', there, fun same => ?_⟩
    rw [Guaranteed.floor_eq_of_limit renewed same]

end Whole

theorem cart_admitted_beside_home :
    ∃ t t' notices, (Sampler.perOperation t).Reached (fun _ => False) ∧
      t.maxOperations.toInt? = some 2 ∧ cartApart.IsSound ∧ t.names = ["home"] ∧
      t.update cartApart (.integer 2) = ⟨.ok true, t', notices⟩ ∧ t'.names = ["home", "cart"] ∧
      ∃ notices', t'.update cartApart (.integer 2) = ⟨.ok false, t', notices'⟩ := by
  have first : Strategy.readParameters .memory (Strategy.parametersJson everyTrace) =
      .ok everyTrace := rfl
  have sound : cartApart.IsSound := by
    have read : Strategy.readParameters .memory (Strategy.parametersJson cartApart) =
        .ok cartApart := rfl
    exact Strategy.isSound_of_readParameters read
  obtain ⟨t, made, asked, whole, before⟩ : ∃ t,
      (create (.integer 2) everyTrace (.integer 0)).1 = .ok t ∧
      ((Sampler.perOperation t).sampleGiven (.integer 1) (.text "home") (.integer 7)).2 =
        .perOperation (t.after (.sample (.integer 1) "home" 7)) ∧
      (t.after (.sample (.integer 1) "home" 7)).maxOperations.toInt? = some 2 ∧
      (t.after (.sample (.integer 1) "home" 7)).names = ["home"] := ⟨_, rfl, rfl, rfl, rfl⟩
  have reached : (Sampler.perOperation (t.after (.sample (.integer 1) "home" 7))).Reached
      (fun _ => False) := by
    rw [← asked]
    exact .sampled _ _ _ (.perOperation first made)
  obtain ⟨changed, t', notices, went, -, unchanged, names, -, again⟩ :=
    reports_and_admits_of_reached reached whole sound (.integer 2)
  rw [before] at names
  have admitted : t'.names = ["home", "cart"] := names
  obtain rfl : changed = true := by
    by_contra quiet
    rw [unchanged (Bool.eq_false_iff.mpr quiet), before] at admitted
    exact absurd admitted (by decide)
  exact ⟨_, t', notices, reached, whole, sound, before, went, admitted, again (.integer 2)⟩

end OperationTable

end Tracing
