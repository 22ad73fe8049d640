import Mathlib.Data.List.Perm.Basic
import Mathlib.Data.List.Sort
import Mathlib.Data.String.Basic
import Tracing.Metrics.Name
/-!
What the key of a metric tells apart. The order of the tags is forgotten, as they are sorted by
name; nothing else is lost as long as no part holds the character that ends it: the key cut at its
dots is the name and the tags, a tag cut at its first equals sign is its name and its value.
-/

set_option autoImplicit false
set_option relaxedAutoImplicit false

namespace Tracing

namespace Metrics

/-! ### The order of the tags -/

instance : Std.Total fun a b : String × Json => a.1 ≤ b.1 := ⟨fun a b => String.le_total a.1 b.1⟩

instance : IsTrans (String × Json) fun a b => a.1 ≤ b.1 := ⟨fun _ _ _ => String.le_trans⟩

private theorem insertTag_eq (entry : String × Json) (tags : Tags) :
    insertTag entry tags = tags.orderedInsert (fun a b => a.1 ≤ b.1) entry := by
  induction tags with
  | nil => rfl
  | cons other rest ih =>
    rw [insertTag, ih, List.orderedInsert_cons]
    by_cases below : other.1 < entry.1
    · rw [if_pos below, if_neg (String.not_le.mpr below)]
    · rw [if_neg below, if_pos (String.not_lt.mp below)]

private theorem sortTags_eq (tags : Tags) :
    sortTags tags = tags.insertionSort fun a b => a.1 ≤ b.1 := by
  rw [sortTags, funext fun entry => funext (insertTag_eq entry)]
  rfl

private theorem sortTags_perm (tags : Tags) : (sortTags tags).Perm tags := by
  rw [sortTags_eq]
  exact List.perm_insertionSort _ tags

private theorem sortTags_sorted (tags : Tags) : (sortTags tags).Pairwise fun a b => a.1 ≤ b.1 := by
  rw [sortTags_eq]
  exact List.pairwise_insertionSort _ tags

variable {tags tags' : Tags}

private theorem sortTags_congr (distinct : (tags.map Prod.fst).Nodup) (perm : tags.Perm tags') :
    sortTags tags = sortTags tags' := by
  have there : (sortTags tags).Perm (sortTags tags') :=
    (sortTags_perm tags).trans (perm.trans (sortTags_perm tags').symm)
  refine there.eq_of_pairwise (fun a b mem mem' below above => ?_) (sortTags_sorted tags)
    (sortTags_sorted tags')
  exact List.inj_on_of_nodup_map distinct ((sortTags_perm tags).subset mem)
    ((sortTags_perm tags).subset (there.symm.subset mem')) (String.le_antisymm below above)

/-- The key of a metric does not depend on the order of its tags. -/
theorem flatten_congr (distinct : (tags.map Prod.fst).Nodup) (perm : tags.Perm tags')
    (name : String) : flatten name tags = flatten name tags' := by
  rw [flatten, sortTags_congr distinct perm, flatten]

/-! ### Cutting a key up -/

/-- A tag as a key shows it, without the dot in front. -/
def piece (tag : String × Json) : List Char := tag.1.toList ++ '=' :: tag.2.plain.toList

/-- The tag that a piece shows: what stands before its first equals sign, and what stands behind. -/
def ofPiece (cs : List Char) : String × Json :=
  (String.ofList (cs.takeWhile (· ≠ '=')), .text (String.ofList ((cs.dropWhile (· ≠ '=')).drop 1)))

section Cut

variable {key : List Char} (whole : '=' ∉ key) (value : List Char)

include whole

theorem takeWhile_key : (key ++ '=' :: value).takeWhile (· ≠ '=') = key := by
  have before : ∀ c ∈ key, decide (c ≠ '=') = true := fun c mem =>
    decide_eq_true (ne_of_mem_of_not_mem mem whole)
  rw [List.takeWhile_append_of_pos before, List.takeWhile_cons_of_neg (by decide), List.append_nil]

theorem dropWhile_key : (key ++ '=' :: value).dropWhile (· ≠ '=') = '=' :: value := by
  have before : ∀ c ∈ key, decide (c ≠ '=') = true := fun c mem =>
    decide_eq_true (ne_of_mem_of_not_mem mem whole)
  rw [List.dropWhile_append_of_pos before, List.dropWhile_cons_of_neg (by decide)]

end Cut

private theorem ofPiece_piece {name : String} (whole : '=' ∉ name.toList) (value : String) :
    ofPiece (piece (name, .text value)) = (name, .text value) := by
  rw [ofPiece, piece, takeWhile_key whole, dropWhile_key whole]
  exact Prod.ext (String.ofList_toList) (congrArg Json.text String.ofList_toList)

private theorem toList_flatten (name : String) (tags : Tags) :
    (flatten name tags).toList = ['.'].intercalate (name.toList :: (sortTags tags).map piece) := by
  rw [flatten]
  induction sortTags tags generalizing name with
  | nil => simp
  | cons tag rest ih =>
    rw [List.foldl_cons, ih]
    cases rest <;> simp [piece, List.intercalate_cons_cons]

def textTags (tags : List (String × String)) : Tags := tags.map fun tag => (tag.1, .text tag.2)

theorem map_fst_textTags (tags : List (String × String)) :
    (textTags tags).map Prod.fst = tags.map Prod.fst := by
  rw [textTags, List.map_map]
  rfl

theorem textTags_perm_iff {tags tags' : List (String × String)} :
    (textTags tags).Perm (textTags tags') ↔ tags.Perm tags' :=
  List.map_perm_map_iff fun a b same => by
    obtain ⟨name, value⟩ := Prod.mk.inj same
    exact Prod.ext name (Json.text.inj value)

/-- A name and tags of which no part holds the character that ends it in a key. -/
structure Label where
  name : String
  tags : List (String × String)
  distinct : (tags.map Prod.fst).Nodup
  undotted : '.' ∉ name.toList
  clear : ∀ tag ∈ tags, '.' ∉ tag.1.toList ∧ '=' ∉ tag.1.toList ∧ '.' ∉ tag.2.toList

namespace Label

def key (l : Label) : String := flatten l.name (textTags l.tags)

/-- One name and the same tags, in any order. -/
def Same (l l' : Label) : Prop := l.name = l'.name ∧ l.tags.Perm l'.tags

instance (l l' : Label) : Decidable (l.Same l') := inferInstanceAs (Decidable (_ ∧ _))

variable {l l' l'' : Label}

theorem Same.refl (l : Label) : l.Same l := ⟨rfl, .rfl⟩

theorem Same.symm (same : l.Same l') : l'.Same l := ⟨same.1.symm, same.2.symm⟩

theorem Same.trans (same : l.Same l') (same' : l'.Same l'') : l.Same l'' :=
  ⟨same.1.trans same'.1, same.2.trans same'.2⟩

private theorem exists_tag {entry : String × Json} (mem : entry ∈ sortTags (textTags l.tags)) :
    ∃ tag ∈ l.tags, (tag.1, .text tag.2) = entry :=
  List.mem_map.mp ((sortTags_perm _).subset mem)

private theorem splitOn_key (l : Label) :
    l.key.toList.splitOn '.' = l.name.toList :: (sortTags (textTags l.tags)).map piece := by
  rw [key, toList_flatten]
  refine List.splitOn_intercalate _ (fun part mem => ?_) (List.cons_ne_nil _ _)
  rcases List.mem_cons.mp mem with rfl | mem
  · exact l.undotted
  · obtain ⟨entry, sorted, rfl⟩ := List.mem_map.mp mem
    obtain ⟨tag, held, rfl⟩ := exists_tag sorted
    obtain ⟨name, -, value⟩ := l.clear tag held
    exact List.not_mem_append name (List.not_mem_cons_of_ne_of_not_mem (by decide) value)

private theorem map_ofPiece (l : Label) :
    ((sortTags (textTags l.tags)).map piece).map ofPiece = sortTags (textTags l.tags) := by
  rw [List.map_map]
  refine (List.map_congr_left fun entry sorted => ?_).trans (List.map_id _)
  obtain ⟨tag, held, rfl⟩ := exists_tag sorted
  exact ofPiece_piece (l.clear tag held).2.1 tag.2

/-- Two labels have one key exactly where they have one name and the same tags. -/
theorem key_eq_iff : l.key = l'.key ↔ l.Same l' := by
  constructor
  · intro same
    have parts := splitOn_key l
    rw [same, splitOn_key l'] at parts
    obtain ⟨names, pieces⟩ := List.cons.inj parts
    have sorted := congrArg (List.map ofPiece) pieces
    rw [map_ofPiece, map_ofPiece] at sorted
    have perm := (sortTags_perm (textTags l.tags)).symm.trans (sorted ▸ sortTags_perm _)
    exact ⟨String.toList_inj.mp names.symm, textTags_perm_iff.mp perm⟩
  · rintro ⟨names, perm⟩
    rw [key, names, key]
    refine flatten_congr ?_ (textTags_perm_iff.mpr perm) l'.name
    rw [map_fst_textTags]
    exact l.distinct

end Label

end Metrics

end Tracing
