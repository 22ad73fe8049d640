import Mathlib.Data.List.Nodup
import Mathlib.Data.List.Pairwise
import Tracing.Conversion
/-!
Edits that leave what a document says as it is. A shape tells which names the objects of a document
are read by; members under other names may come in, members may change places, and a member may go
by another name of its field. Names that are read stand at most once, and this no edit changes.
-/

set_option autoImplicit false
set_option relaxedAutoImplicit false

namespace Tracing

open Conversion

namespace Json

/-- How a value is read: as a whole, as a list of values, or as an object. A field of an object has
the names that it goes by, and what stands under them has a shape of its own. -/
inductive Shape where
  | whole
  | list (item : Shape)
  | object (fields : List (List String × Shape))

/-- A shape in which no name belongs to two fields of an object. -/
inductive Shape.IsApart : Shape → Prop where
  | whole : IsApart .whole
  | list {item : Shape} (inner : IsApart item) : IsApart (.list item)
  | object {fields : List (List String × Shape)}
      (apart : fields.Pairwise fun field other => field.1.Disjoint other.1)
      (inner : ∀ field ∈ fields, IsApart field.2) : IsApart (.object fields)

/-- One edit of a value, at the top or inside. -/
inductive Edit : Shape → Json → Json → Prop where
  /-- A member comes in under a name that is not read. -/
  | add {fields : List (List String × Shape)} {before after : List (String × Json)} {name : String}
      {v : Json} (unknown : ∀ field ∈ fields, name ∉ field.1) :
      Edit (.object fields) (.object (before ++ after)) (.object (before ++ (name, v) :: after))
  | permute {fields : List (List String × Shape)} {members members' : List (String × Json)}
      (same : members.Perm members') :
      Edit (.object fields) (.object members) (.object members')
  /-- The only member of a field takes another name of it. -/
  | rename {fields : List (List String × Shape)} {field : List String × Shape}
      {before after : List (String × Json)} {old new : String} {v : Json} (known : field ∈ fields)
      (own : old ∈ field.1) (other : new ∈ field.1) (only : ∀ m ∈ before ++ after, m.1 ∉ field.1) :
      Edit (.object fields) (.object (before ++ (old, v) :: after))
        (.object (before ++ (new, v) :: after))
  | inside {fields : List (List String × Shape)} {field : List String × Shape}
      {before after : List (String × Json)} {name : String} {v v' : Json} (known : field ∈ fields)
      (own : name ∈ field.1) (inner : Edit field.2 v v') :
      Edit (.object fields) (.object (before ++ (name, v) :: after))
        (.object (before ++ (name, v') :: after))
  | item {shape : Shape} {before after : List Json} {v v' : Json} (inner : Edit shape v v') :
      Edit (.list shape) (.array (before ++ v :: after)) (.array (before ++ v' :: after))

/-- The values that stand under a name, in the order written. -/
def valuesOf (name : String) (members : List (String × Json)) : List Json :=
  (members.filter fun m => m.1 = name).map Prod.snd

/-- A value in which names that are read stand at most once in their objects. -/
inductive Tidy : Shape → Json → Prop where
  | whole (v : Json) : Tidy .whole v
  | list {item : Shape} {v : Json} (each : ∀ items, v = .array items → ∀ w ∈ items, Tidy item w) :
      Tidy (.list item) v
  | object {fields : List (List String × Shape)} {v : Json}
      (once : ∀ members, v = .object members → ∀ field ∈ fields, ∀ name ∈ field.1,
        (valuesOf name members).length ≤ 1)
      (each : ∀ members, v = .object members → ∀ field ∈ fields, ∀ m ∈ members,
        m.1 ∈ field.1 → Tidy field.2 m.2) : Tidy (.object fields) v

/-- A value without an object in which a name stands twice. -/
inductive NamesApart : Json → Prop where
  | mk {v : Json} (items : ∀ items, v = .array items → ∀ w ∈ items, NamesApart w)
      (names : ∀ members, v = .object members → (members.map Prod.fst).Nodup)
      (members : ∀ members, v = .object members → ∀ m ∈ members, NamesApart m.2) : NamesApart v

section Values

variable {name : String} {v : Json} {ms ms' before after : List (String × Json)}

private theorem valuesOf_append (name : String) (before after : List (String × Json)) :
    valuesOf name (before ++ after) = valuesOf name before ++ valuesOf name after := by
  simp [valuesOf]

private theorem valuesOf_insert_self :
    valuesOf name (before ++ (name, v) :: after) =
      valuesOf name before ++ v :: valuesOf name after := by
  simp [valuesOf]

private theorem valuesOf_insert_other {other : String} (differ : name ≠ other) :
    valuesOf other (before ++ (name, v) :: after) = valuesOf other (before ++ after) := by
  simp [valuesOf, differ]

private theorem mem_valuesOf : v ∈ valuesOf name ms ↔ (name, v) ∈ ms := by
  simp [valuesOf]

private theorem valuesOf_of_absent (absent : ∀ m ∈ ms, m.1 ≠ name) : valuesOf name ms = [] := by
  simp only [valuesOf, List.map_eq_nil_iff, List.filter_eq_nil_iff, decide_eq_true_eq]
  exact absent

private theorem length_valuesOf (name : String) (ms : List (String × Json)) :
    (valuesOf name ms).length = (ms.map Prod.fst).count name := by
  induction ms with
  | nil => rfl
  | cons m rest ih =>
    obtain ⟨k, w⟩ := m
    by_cases same : k = name
    · simp [valuesOf, same] at ih ⊢
      exact ih
    · simp [valuesOf, same] at ih ⊢
      exact ih

private theorem lookup_eq_getLast? (name : String) (ms : List (String × Json)) :
    lookup name ms = (valuesOf name ms).getLast? := by
  induction ms with
  | nil => rfl
  | cons m rest ih =>
    obtain ⟨k, w⟩ := m
    rw [lookup, ih]
    by_cases same : k = name
    · subst same
      have first : valuesOf k ((k, w) :: rest) = w :: valuesOf k rest := by simp [valuesOf]
      rw [first, List.getLast?_cons]
      cases (valuesOf k rest).getLast? <;> simp
    · have first : valuesOf name ((k, w) :: rest) = valuesOf name rest := by simp [valuesOf, same]
      rw [first]
      cases (valuesOf name rest).getLast? <;> simp [same]

theorem lookup_insert_self (absent : ∀ m ∈ before ++ after, m.1 ≠ name) :
    lookup name (before ++ (name, v) :: after) = some v := by
  have empty := valuesOf_of_absent absent
  rw [valuesOf_append, List.append_eq_nil_iff] at empty
  rw [lookup_eq_getLast?, valuesOf_insert_self, empty.1, empty.2]
  rfl

theorem lookup_insert_other {other : String} (differ : name ≠ other) :
    lookup other (before ++ (name, v) :: after) = lookup other (before ++ after) := by
  rw [lookup_eq_getLast?, lookup_eq_getLast?, valuesOf_insert_other differ]

theorem lookup_of_absent (absent : ∀ m ∈ ms, m.1 ≠ name) : lookup name ms = none := by
  rw [lookup_eq_getLast?, valuesOf_of_absent absent]
  rfl

private theorem lookup_perm (same : ms.Perm ms') (once : (valuesOf name ms).length ≤ 1) :
    lookup name ms' = lookup name ms := by
  have perm : (valuesOf name ms).Perm (valuesOf name ms') := (same.filter _).map _
  rw [lookup_eq_getLast?, lookup_eq_getLast?]
  generalize valuesOf name ms = values, valuesOf name ms' = values' at once perm
  cases values with
  | nil => rw [List.nil_perm.mp perm]
  | cons w rest =>
    cases rest with
    | nil => rw [List.singleton_perm.mp perm]
    | cons w' rest =>
      simp only [List.length_cons] at once
      omega

private theorem mem_of_lookup (found : lookup name ms = some v) : (name, v) ∈ ms := by
  rw [lookup_eq_getLast?] at found
  exact mem_valuesOf.mp (List.mem_of_getLast? found)

end Values

section Tidiness

variable {shape : Shape} {fields : List (List String × Shape)} {ms : List (String × Json)}
variable {v v' : Json}

theorem NamesApart.tidy (apart : NamesApart v) (shape : Shape) : Tidy shape v := by
  induction apart generalizing shape with
  | mk items names members ihItems ihMembers =>
    cases shape with
    | whole => exact .whole _
    | list item => exact .list fun is same w m => ihItems is same w m item
    | object fields =>
      refine .object (fun ms same field _ name _ => ?_) fun ms same field _ m there _ =>
        ihMembers ms same m there field.2
      rw [length_valuesOf]
      exact List.nodup_iff_count_le_one.mp (names ms same) name

theorem Tidy.null (shape : Shape) : Tidy shape .null := by
  cases shape with
  | whole => exact .whole _
  | list item => exact .list nofun
  | object fields => exact .object nofun nofun

theorem tidy_list_iff {item : Shape} {items : List Json} :
    Tidy (.list item) (.array items) ↔ ∀ w ∈ items, Tidy item w := by
  constructor
  · intro tidy
    cases tidy with
    | list each => exact each items rfl
  · rintro each
    exact .list fun _ same => by
      cases same
      exact each

private theorem tidy_object_iff : Tidy (.object fields) (.object ms) ↔
    (∀ field ∈ fields, ∀ name ∈ field.1, (valuesOf name ms).length ≤ 1) ∧
      ∀ field ∈ fields, ∀ m ∈ ms, m.1 ∈ field.1 → Tidy field.2 m.2 := by
  constructor
  · intro tidy
    cases tidy with
    | object once each => exact ⟨once ms rfl, each ms rfl⟩
  · rintro ⟨once, each⟩
    refine .object (fun _ same => ?_) fun _ same => ?_
    · cases same
      exact once
    · cases same
      exact each

/-- A member may stand under a name that is read if its value is tidy and the name stands nowhere
else. -/
theorem tidy_insert_iff {name : String} {before after : List (String × Json)} :
    Tidy (.object fields) (.object (before ++ (name, v) :: after)) ↔
      Tidy (.object fields) (.object (before ++ after)) ∧ ∀ field ∈ fields, name ∈ field.1 →
        Tidy field.2 v ∧ ∀ m ∈ before ++ after, m.1 ≠ name := by
  rw [tidy_object_iff, tidy_object_iff]
  constructor
  · rintro ⟨once, each⟩
    refine ⟨⟨fun field known other own => ?_, fun field known m there => ?_⟩,
      fun field known own => ⟨?_, ?_⟩⟩
    · refine Nat.le_trans ?_ (once field known other own)
      by_cases same : name = other
      · subst same
        rw [valuesOf_insert_self, valuesOf_append, List.length_append, List.length_append]
        exact Nat.add_le_add_left (Nat.le_succ _) _
      · exact Nat.le_of_eq (by rw [valuesOf_insert_other same])
    · exact each field known m (List.mem_append.mpr
        ((List.mem_append.mp there).imp_right (List.mem_cons_of_mem _)))
    · exact each field known (name, v) (by simp) own
    · have single := once field known name own
      rw [valuesOf_insert_self, List.length_append, List.length_cons] at single
      have empty : valuesOf name (before ++ after) = [] := by
        rw [← List.length_eq_zero_iff, valuesOf_append, List.length_append]
        omega
      rintro ⟨_, w⟩ there rfl
      have mentioned := mem_valuesOf.mpr there
      rw [empty] at mentioned
      cases mentioned
  · rintro ⟨⟨once, each⟩, here⟩
    refine ⟨fun field known other own => ?_, fun field known m there own => ?_⟩
    · by_cases same : name = other
      · subst same
        have empty := valuesOf_of_absent (here field known own).2
        rw [valuesOf_append, List.append_eq_nil_iff] at empty
        rw [valuesOf_insert_self, empty.1, empty.2]
        exact Nat.le_refl 1
      · rw [valuesOf_insert_other same]
        exact once field known other own
    · rcases List.mem_append.mp there with early | late
      · exact each field known m (List.mem_append_left _ early) own
      · rcases List.mem_cons.mp late with rfl | late
        · exact (here field known own).1
        · exact each field known m (List.mem_append_right _ late) own

theorem eq_of_shared (apart : fields.Pairwise fun field other => field.1.Disjoint other.1)
    {field other : List String × Shape} (m : field ∈ fields) (m' : other ∈ fields) {name : String}
    (own : name ∈ field.1) (own' : name ∈ other.1) : field = other := by
  by_contra differ
  have symm : Std.Symm fun field other : List String × Shape => field.1.Disjoint other.1 :=
    ⟨fun _ _ disjoint _ here there => disjoint there here⟩
  exact apart.forall m m' differ own own'

theorem Tidy.edit (tidy : Tidy shape v) (apart : shape.IsApart) (edit : Edit shape v v') :
    Tidy shape v' := by
  induction edit with
  | add unknown =>
    exact tidy_insert_iff.mpr ⟨tidy, fun field known own => absurd own (unknown field known)⟩
  | permute same =>
    obtain ⟨once, each⟩ := tidy_object_iff.mp tidy
    refine tidy_object_iff.mpr ⟨fun field known name own => ?_, fun field known m there => ?_⟩
    · rw [length_valuesOf, ← (same.map Prod.fst).count_eq, ← length_valuesOf]
      exact once field known name own
    · exact each field known m (same.mem_iff.mpr there)
  | rename known own other only =>
    cases apart with
    | object apart _ =>
      obtain ⟨rest, here⟩ := tidy_insert_iff.mp tidy
      refine tidy_insert_iff.mpr ⟨rest, fun field' known' own' => ?_⟩
      obtain rfl := eq_of_shared apart known known' other own'
      refine ⟨(here _ known own).1, fun m there same => only m there ?_⟩
      rw [same]
      exact other
  | inside known own inner ih =>
    cases apart with
    | object apart deeper =>
      obtain ⟨rest, here⟩ := tidy_insert_iff.mp tidy
      refine tidy_insert_iff.mpr ⟨rest, fun field' known' own' => ?_⟩
      obtain rfl := eq_of_shared apart known known' own own'
      obtain ⟨tidy, absent⟩ := here _ known own
      exact ⟨ih tidy (deeper _ known), absent⟩
  | @item shape before after v v' inner ih =>
    cases apart with
    | list deeper =>
      have each := tidy_list_iff.mp tidy
      refine tidy_list_iff.mpr fun w there => ?_
      rcases List.mem_append.mp there with early | late
      · exact each w (List.mem_append_left _ early)
      · rcases List.mem_cons.mp late with rfl | late
        · exact ih (each v (by simp)) deeper
        · exact each w (by simp [late])

end Tidiness

section Members

variable {shape : Shape} {fields : List (List String × Shape)} {ms ms' : List (String × Json)}
variable {v v' : Json} {names : List String}

theorem Edit.ne_null (edit : Edit shape v v') : v ≠ .null ∧ v' ≠ .null := by
  cases edit <;> exact ⟨nofun, nofun⟩

private theorem rel_member? {R : Json → Json → Prop}
    (each : ∀ name ∈ names, Option.Rel R (lookup name ms) (lookup name ms')) :
    Option.Rel (fun m m' => R m.2 m'.2) (member? ms names) (member? ms' names) := by
  induction names with
  | nil => exact .none
  | cons name rest ih =>
    obtain ⟨here, each⟩ := List.forall_mem_cons.mp each
    unfold member?
    generalize lookup name ms = left, lookup name ms' = right at here
    cases here with
    | some both => exact .some both
    | none => exact ih each

private theorem member?_of_only {name : String} (own : name ∈ names)
    (found : lookup name ms = some v)
    (only : ∀ other ∈ names, other ≠ name → lookup other ms = none) :
    member? ms names = some (name, v) := by
  induction names with
  | nil => cases own
  | cons first rest ih =>
    unfold member?
    by_cases same : first = name
    · rw [same, found]
    · rw [only first List.mem_cons_self same]
      have later : name ∈ rest := (List.mem_cons.mp own).resolve_left (Ne.symm same)
      exact ih later fun other there => only other (List.mem_cons_of_mem _ there)

theorem mem_of_member? {m : String × Json} (found : member? ms names = some m) :
    m.1 ∈ names ∧ m ∈ ms := by
  induction names with
  | nil => cases found
  | cons name rest ih =>
    unfold member? at found
    split at found
    case h_1 there =>
      cases found
      exact ⟨List.mem_cons_self, mem_of_lookup there⟩
    case h_2 =>
      obtain ⟨own, there⟩ := ih found
      exact ⟨List.mem_cons_of_mem _ own, there⟩

/-- What an edit of an object does to its fields: each is there before and after or neither, and
what stands in it is the same or edited itself. -/
def Revised (fields : List (List String × Shape)) (ms ms' : List (String × Json)) : Prop :=
  ∀ field ∈ fields, Option.Rel
    (fun m m' => m'.2 = m.2 ∨ Tidy field.2 m.2 ∧ Edit field.2 m.2 m'.2)
    (member? ms field.1) (member? ms' field.1)

theorem revised_of_edit (apart : fields.Pairwise fun field other => field.1.Disjoint other.1)
    (tidy : Tidy (.object fields) v) (edit : Edit (.object fields) v v') :
    ∃ ms ms', v = .object ms ∧ v' = .object ms' ∧ Revised fields ms ms' := by
  have kept {field : List String × Shape} {ms ms' : List (String × Json)} {name : String}
      (same : lookup name ms' = lookup name ms) :
      Option.Rel (fun w w' => w' = w ∨ Tidy field.2 w ∧ Edit field.2 w w')
        (lookup name ms) (lookup name ms') := by
    rw [same]
    cases lookup name ms with
    | none => exact .none
    | some w => exact .some (.inl rfl)
  cases edit with
  | add unknown =>
    refine ⟨_, _, rfl, rfl, fun field known => rel_member? fun name own => kept ?_⟩
    exact lookup_insert_other fun same => unknown field known (same ▸ own)
  | permute same =>
    refine ⟨_, _, rfl, rfl, fun field known => rel_member? fun name own => kept ?_⟩
    exact lookup_perm same ((tidy_object_iff.mp tidy).1 field known name own)
  | @rename _ own before after old new w known isOld isNew only =>
    refine ⟨_, _, rfl, rfl, fun field known' => ?_⟩
    have absent {name : String} (named : name ∈ own.1) : ∀ m ∈ before ++ after, m.1 ≠ name :=
      fun m there same => only m there (same ▸ named)
    by_cases same : own = field
    · subst same
      have alone {name : String} (named : name ∈ own.1) :
          member? (before ++ (name, w) :: after) own.1 = some (name, w) := by
        refine member?_of_only named (lookup_insert_self (absent named))
          fun other there differ => ?_
        rw [lookup_insert_other (Ne.symm differ)]
        exact lookup_of_absent (absent there)
      rw [alone isOld, alone isNew]
      exact .some (.inl rfl)
    · have foreign {name other : String} (named : name ∈ own.1) (there : other ∈ field.1) :
          name ≠ other :=
        fun equal => same (eq_of_shared apart known known' named (equal ▸ there))
      refine rel_member? fun name there => kept ?_
      rw [lookup_insert_other (foreign isNew there), lookup_insert_other (foreign isOld there)]
  | @inside _ own before after name w w' known isOwn inner =>
    refine ⟨_, _, rfl, rfl, fun field known' => rel_member?
      (R := fun w w' => w' = w ∨ Tidy field.2 w ∧ Edit field.2 w w') fun other there => ?_⟩
    by_cases same : name = other
    · subst same
      obtain rfl := eq_of_shared apart known known' isOwn there
      obtain ⟨tidy, absent⟩ := (tidy_insert_iff.mp tidy).2 _ known isOwn
      rw [lookup_insert_self absent, lookup_insert_self absent]
      exact .some (.inr ⟨tidy, inner⟩)
    · exact kept (by rw [lookup_insert_other same, lookup_insert_other same])

end Members

end Json

end Tracing
