import Mathlib.Data.List.TakeWhile
import Tracing.Metrics.Store
import Tracing.Proofs.Json.Members
import Tracing.Proofs.Metrics.Naming
/-!
Tags written as one text. The text of a mapping is cut at its commas, every entry at its first
equals sign; with blanks around the parts and blank entries between them it reads as the mapping
that was written, so a metric is found by the text as by the mapping.
-/

set_option autoImplicit false
set_option relaxedAutoImplicit false

namespace Tracing

namespace Text

def AllBlank (cs : List Char) : Prop := ∀ c ∈ cs, isBlank c = true

/-- Neither begins nor ends with a blank. -/
structure IsTight (cs : List Char) : Prop where
  first : ∀ c ∈ cs.head?, isBlank c = false
  last : ∀ c ∈ cs.getLast?, isBlank c = false

instance (cs : List Char) : Decidable (AllBlank cs) := List.decidableBAll _ cs

instance (cs : List Char) : Decidable (IsTight cs) :=
  decidable_of_iff (cs.head?.all (!isBlank ·) ∧ cs.getLast?.all (!isBlank ·))
    ⟨fun tight => ⟨by simpa [Option.all_eq_true] using tight.1,
        by simpa [Option.all_eq_true] using tight.2⟩,
      fun tight => ⟨by simpa [Option.all_eq_true] using tight.first,
        by simpa [Option.all_eq_true] using tight.last⟩⟩

variable {before cs after : List Char}

private theorem AllBlank.reverse (blank : AllBlank cs) : AllBlank cs.reverse := fun c mem =>
  blank c (List.mem_reverse.mp mem)

private theorem AllBlank.not_mem (blank : AllBlank cs) {c : Char} (solid : isBlank c = false) :
    c ∉ cs :=
  fun mem => Bool.false_ne_true (solid.symm.trans (blank c mem))

private theorem IsTight.reverse (tight : IsTight cs) : IsTight cs.reverse :=
  ⟨by rw [List.head?_reverse]; exact tight.last, by rw [List.getLast?_reverse]; exact tight.first⟩

private theorem dropWhile_of_first (solid : ∀ c ∈ cs.head?, isBlank c = false) :
    cs.dropWhile isBlank = cs := by
  cases cs with
  | nil => rfl
  | cons c rest => rw [List.dropWhile_cons_of_neg (by simp [solid c rfl])]

private theorem dropWhile_padded (tight : IsTight cs) (front : AllBlank before)
    (back : AllBlank after) :
    ∃ kept, AllBlank kept ∧ (before ++ cs ++ after).dropWhile isBlank = cs ++ kept := by
  rw [List.append_assoc, List.dropWhile_append_of_pos front]
  cases cs with
  | nil => exact ⟨[], nofun, List.dropWhile_eq_nil_iff.mpr back⟩
  | cons c rest => exact ⟨after, back, dropWhile_of_first tight.first⟩

private theorem trim_padded (before after : List Char) (tight : IsTight cs)
    (front : AllBlank before)
    (back : AllBlank after) : trim (before ++ cs ++ after) = cs := by
  obtain ⟨kept, blank, front⟩ := dropWhile_padded tight front back
  rw [trim, trimList, front, List.reverse_append, List.dropWhile_append_of_pos blank.reverse,
    dropWhile_of_first tight.reverse.first, List.reverse_reverse]

private theorem dropWhile_append_solid (before after : List Char) {c : Char}
    (solid : isBlank c = false) :
    (before ++ c :: after).dropWhile isBlank = before.dropWhile isBlank ++ c :: after := by
  rw [List.dropWhile_append, List.dropWhile_cons_of_neg (by simp [solid])]
  split
  next empty => rw [List.isEmpty_iff.mp empty, List.nil_append]
  next => rfl

private theorem trim_append_solid (front back : List Char) {c : Char} (solid : isBlank c = false) :
    trim (front ++ c :: back) =
      front.dropWhile isBlank ++ c :: (back.reverse.dropWhile isBlank).reverse := by
  rw [trim, trimList, dropWhile_append_solid front back solid, List.reverse_append,
    List.reverse_cons, List.append_assoc, List.singleton_append, dropWhile_append_solid _ _ solid]
  simp

end Text

namespace Metrics

private theorem entries_eq (cs : List Char) : entries cs = cs.splitOn ',' := by
  induction cs with
  | nil => rfl
  | cons c rest ih =>
    rw [entries, ih, List.splitOn_cons_eq_if_modifyHead]
    cases there : rest.splitOn ',' with
    | nil => exact absurd there (List.splitOn_ne_nil _ _)
    | cons entry others => simp [List.modifyHead]

open Text

/-- One entry of a text of tags: blanks alone, or a tag with blanks around its name and value. -/
inductive TagEntry where
  | blank (blanks : List Char)
  | tag (nameAndValue : String × String) (before left right after : List Char)

namespace TagEntry

def tag? : TagEntry → Option (String × String)
  | blank _ => none
  | tag nameAndValue .. => some nameAndValue

def chars : TagEntry → List Char
  | blank blanks => blanks
  | tag (name, value) before left right after =>
    before ++ name.toList ++ left ++ '=' :: (right ++ value.toList ++ after)

/-- What stands around the parts is blank. -/
def IsPadded : TagEntry → Prop
  | blank blanks => AllBlank blanks
  | tag _ before left right after =>
    AllBlank before ∧ AllBlank left ∧ AllBlank right ∧ AllBlank after

instance : DecidablePred IsPadded
  | blank blanks => inferInstanceAs (Decidable (AllBlank blanks))
  | tag _ before left right after => inferInstanceAs (Decidable
      (AllBlank before ∧ AllBlank left ∧ AllBlank right ∧ AllBlank after))

end TagEntry

/-- A tag that a text of tags can hold. -/
structure IsWritable (tag : String × String) : Prop where
  name : IsTight tag.1.toList
  value : IsTight tag.2.toList
  uncut : ',' ∉ tag.1.toList ∧ ',' ∉ tag.2.toList
  whole : '=' ∉ tag.1.toList

instance (tag : String × String) : Decidable (IsWritable tag) :=
  decidable_of_iff (IsTight tag.1.toList ∧ IsTight tag.2.toList ∧
    (',' ∉ tag.1.toList ∧ ',' ∉ tag.2.toList) ∧ '=' ∉ tag.1.toList)
    ⟨fun ⟨name, value, uncut, whole⟩ => ⟨name, value, uncut, whole⟩,
      fun ⟨name, value, uncut, whole⟩ => ⟨name, value, uncut, whole⟩⟩

def writeTags (written : List TagEntry) : String :=
  String.ofList ([','].intercalate (written.map TagEntry.chars))

private theorem splitEntry_trim {tag : String × String} (writable : IsWritable tag)
    {before left right after : List Char}
    (padded : (TagEntry.tag tag before left right after).IsPadded) :
    ∃ key value : List Char, trim (TagEntry.tag tag before left right after).chars =
      key ++ '=' :: value ∧ splitEntry (key ++ '=' :: value) = (tag.1, .text tag.2) := by
  obtain ⟨front, inner, later, back⟩ := padded
  obtain ⟨kept, blank, key⟩ := dropWhile_padded writable.name front inner
  obtain ⟨kept', blank', value⟩ :=
    dropWhile_padded writable.value.reverse back.reverse later.reverse
  have solid : isBlank '=' = false := by decide
  refine ⟨tag.1.toList ++ kept, kept'.reverse ++ tag.2.toList, ?_, ?_⟩
  · rw [TagEntry.chars, trim_append_solid _ _ solid, key]
    simp only [List.reverse_append, List.append_assoc] at value ⊢
    rw [value]
    simp
  · have whole : '=' ∉ tag.1.toList ++ kept :=
      List.not_mem_append writable.whole (blank.not_mem solid)
    have name := trim_padded [] kept writable.name nofun blank
    have text := trim_padded kept'.reverse [] writable.value blank'.reverse nofun
    rw [List.nil_append] at name
    rw [List.append_nil] at text
    rw [splitEntry, takeWhile_key whole, dropWhile_key whole]
    dsimp only [List.drop]
    rw [name, text, String.ofList_toList, String.ofList_toList]

private theorem map_splitEntry {written : List TagEntry}
    (padded : ∀ entry ∈ written, entry.IsPadded)
    (writable : ∀ tag ∈ written.filterMap TagEntry.tag?, IsWritable tag) :
    (((written.map TagEntry.chars).map trim).filter (!·.isEmpty)).map splitEntry =
      textTags (written.filterMap TagEntry.tag?) := by
  induction written with
  | nil => rfl
  | cons entry rest ih =>
    obtain ⟨first, others⟩ := List.forall_mem_cons.mp padded
    cases entry with
    | blank blanks =>
      have gone : trim blanks = [] := by
        have nothing : IsTight [] := ⟨nofun, nofun⟩
        simpa using trim_padded blanks [] nothing first nofun
      simp only [List.map_cons, TagEntry.chars, gone]
      exact ih others writable
    | tag tag before left right after =>
      obtain ⟨this, later⟩ := List.forall_mem_cons.mp writable
      obtain ⟨key, value, kept, read⟩ := splitEntry_trim this first
      simp only [List.map_cons, kept]
      rw [List.filter_cons_of_pos (by simp), List.map_cons, read, ih others later]
      rfl

private theorem chars_uncut {entry : TagEntry} (padded : entry.IsPadded)
    (writable : ∀ tag ∈ entry.tag?, IsWritable tag) : ',' ∉ entry.chars := by
  have solid : isBlank ',' = false := by decide
  cases entry with
  | blank blanks => exact AllBlank.not_mem padded solid
  | tag tag before left right after =>
    obtain ⟨front, inner, later, back⟩ := padded
    obtain ⟨name, value⟩ := (writable tag rfl).uncut
    simp [TagEntry.chars, name, value, front.not_mem solid, inner.not_mem solid,
      later.not_mem solid, back.not_mem solid]

private theorem entries_writeTags {written : List TagEntry}
    (padded : ∀ entry ∈ written, entry.IsPadded)
    (writable : ∀ tag ∈ written.filterMap TagEntry.tag?, IsWritable tag) (nonempty : written ≠ []) :
    entries (writeTags written).toList = written.map TagEntry.chars := by
  rw [entries_eq, writeTags, String.toList_ofList]
  refine List.splitOn_intercalate _ (fun part mem => ?_) (mt List.map_eq_nil_iff.mp nonempty)
  obtain ⟨entry, held, rfl⟩ := List.mem_map.mp mem
  exact chars_uncut (padded entry held) fun tag shown =>
    writable tag (List.mem_filterMap.mpr ⟨entry, held, shown⟩)

private theorem parseTags_writeTags {written : List TagEntry}
    (distinct : ((written.filterMap TagEntry.tag?).map Prod.fst).Nodup)
    (padded : ∀ entry ∈ written, entry.IsPadded)
    (writable : ∀ tag ∈ written.filterMap TagEntry.tag?, IsWritable tag) :
    parseTags (writeTags written) = textTags (written.filterMap TagEntry.tag?) := by
  by_cases empty : written = []
  · subst empty
    rfl
  · rw [parseTags, entries_writeTags padded writable empty, map_splitEntry padded writable]
    exact Json.distinct_of_nodup (by rwa [map_fst_textTags])

/-- However the tags of a mapping are written as a text, in any order, with blanks around their
names and values and with blank entries between them, the text reads as that mapping and finds in
every store what the mapping finds. -/
theorem text_finds_mapping {tags : List (String × String)} {written : List TagEntry}
    (distinct : (tags.map Prod.fst).Nodup) (writable : ∀ tag ∈ tags, IsWritable tag)
    (all : (written.filterMap TagEntry.tag?).Perm tags)
    (padded : ∀ entry ∈ written, entry.IsPadded) :
    parseTags (writeTags written) = textTags (written.filterMap TagEntry.tag?) ∧
      (parseTags (writeTags written)).Perm (textTags tags) ∧
      ∀ (name : String) (s : Store),
        s.counter name (.text (writeTags written)) = s.counter name (.tags (textTags tags)) ∧
        s.gauge name (.text (writeTags written)) = s.gauge name (.tags (textTags tags)) := by
  have names : ((written.filterMap TagEntry.tag?).map Prod.fst).Nodup :=
    (all.map Prod.fst).nodup_iff.mpr distinct
  have read := parseTags_writeTags names padded fun tag mem => writable tag (all.subset mem)
  have same : (parseTags (writeTags written)).Perm (textTags tags) :=
    read ▸ textTags_perm_iff.mpr all
  refine ⟨read, same, fun name s => ?_⟩
  have key : flatten name (TagQuery.text (writeTags written)).toTags =
      flatten name (TagQuery.tags (textTags tags)).toTags := by
    refine flatten_congr ?_ same name
    show ((parseTags (writeTags written)).map Prod.fst).Nodup
    rwa [read, map_fst_textTags]
  constructor
  · rw [Store.counter, Store.counter, key]
  · rw [Store.gauge, Store.gauge, key]

def resultAndPath : List (String × String) := [("path", "/a=b"), ("result", "ok")]

/-- The tags in the other order, with blanks and blank entries. -/
def loose : List TagEntry :=
  [.blank [' '], .tag ("result", "ok") [' '] [' '] [] [' '], .blank [],
    .tag ("path", "/a=b") [] [] ['\t'] []]

theorem loose_text_finds_mapping :
    writeTags loose = " , result =ok ,,path=\t/a=b" ∧
      parseTags (writeTags loose) = [("result", .text "ok"), ("path", .text "/a=b")] ∧
      (Store.createCounter "requests" (textTags resultAndPath) {}).2.counter "requests"
        (.text (writeTags loose)) = .integer 0 := by
  have writable : ∀ tag ∈ resultAndPath, IsWritable tag := by decide
  have padded : ∀ entry ∈ loose, entry.IsPadded := by decide
  have all : (loose.filterMap TagEntry.tag?).Perm resultAndPath := by decide
  obtain ⟨read, -, finds⟩ := text_finds_mapping (by decide) writable all padded
  refine ⟨rfl, read, ?_⟩
  rw [(finds "requests" _).1]
  rfl

end Metrics

end Tracing
