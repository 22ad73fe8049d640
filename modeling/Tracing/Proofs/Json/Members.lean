import Mathlib.Data.List.Nodup
import Tracing.Proofs.Json.Edits
/-!
Members under distinct names: putting a new name in adds it at the end, and keeping one member for
each name keeps them all.
-/

set_option autoImplicit false
set_option relaxedAutoImplicit false

namespace Tracing

namespace Json

variable {name : String} {members : List (String × Json)}

theorem lookup_of_new (new : name ∉ members.map Prod.fst) : lookup name members = none :=
  lookup_of_absent fun _ mem same => new (same ▸ List.mem_map_of_mem mem)

/-- Of members under distinct names, each name is new to those before it. -/
theorem new_of_nodup {done rest : List (String × Json)} {member : String × Json}
    (nodup : ((done ++ member :: rest).map Prod.fst).Nodup) : member.1 ∉ done.map Prod.fst := by
  rw [List.map_append, List.map_cons] at nodup
  exact fun mem => (List.nodup_append.mp nodup).2.2 _ mem _ List.mem_cons_self rfl

theorem put_of_new (new : name ∉ members.map Prod.fst) (value : Json) :
    put name value members = members ++ [(name, value)] := by
  induction members with
  | nil => rfl
  | cons member rest ih =>
    obtain ⟨other, later⟩ := not_or.mp (mt List.mem_cons.mpr new)
    rw [put, if_neg (Ne.symm other), ih later, List.cons_append]

private theorem names_put (name : String) (value : Json) (members : List (String × Json)) :
    (put name value members).map Prod.fst ⊆ name :: members.map Prod.fst := by
  induction members with
  | nil => exact fun _ mem => mem
  | cons member rest ih =>
    rw [put]
    split
    · exact fun _ mem => List.mem_cons_of_mem _ mem
    · intro other mem
      rcases List.mem_cons.mp mem with rfl | mem
      · exact List.mem_cons_of_mem _ List.mem_cons_self
      · exact List.cons_subset_cons _ (List.subset_cons_self _ _) (ih mem)

theorem names_distinct (members : List (String × Json)) :
    (distinct members).map Prod.fst ⊆ members.map Prod.fst := by
  suffices later : ∀ done : List (String × Json),
      (members.foldl (fun done m => put m.1 m.2 done) done).map Prod.fst ⊆
        done.map Prod.fst ++ members.map Prod.fst from later []
  induction members with
  | nil => simp
  | cons member rest ih =>
    intro done name mem
    rcases List.mem_append.mp (ih _ mem) with mem | mem
    · rcases List.mem_cons.mp (names_put _ _ _ mem) with rfl | mem
      · exact List.mem_append_right _ List.mem_cons_self
      · exact List.mem_append_left _ mem
    · exact List.mem_append_right _ (List.mem_cons_of_mem _ mem)

theorem distinct_of_nodup (nodup : (members.map Prod.fst).Nodup) : distinct members = members := by
  suffices later : ∀ done : List (String × Json), ((done ++ members).map Prod.fst).Nodup →
      members.foldl (fun done m => put m.1 m.2 done) done = done ++ members from later [] nodup
  clear nodup
  induction members with
  | nil => exact fun done _ => (List.append_nil done).symm
  | cons member rest ih =>
    intro done nodup
    have new := new_of_nodup nodup
    rw [List.append_cons] at nodup
    rw [List.foldl_cons, put_of_new new, ih _ nodup, List.append_cons done member rest]

end Json

end Tracing
