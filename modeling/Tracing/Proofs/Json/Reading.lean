import Tracing.Json.Access
import Tracing.Json.Reader
import Tracing.Proofs.Json.Words
/-!
Values that were written are read back. A text holds a value in full if the value has neither bytes
nor halves of characters, its numbers are finite and its integers not too long; every style whose
blanks are blanks to a reader writes such a value so that a reader that goes deep enough finds it.
-/

set_option autoImplicit false
set_option relaxedAutoImplicit false

namespace Tracing

open Json

/-- Whether readers find in a text of this style what is between its values. -/
structure JsonStyle.IsLegible (style : JsonStyle) : Prop where
  nameEnd : ∃ gaps, style.nameEnd.toList = ':' :: gaps ∧ ∀ c ∈ gaps, isGap c = true
  numbers : style.numbers.positionalBelow ≤ integerDigitLimit

namespace Json

/-- A value that a text holds in full. -/
inductive IsPlain : Json → Prop
  | null : IsPlain .null
  | truth (b : Bool) : IsPlain (.truth b)
  | integer {n : Int} : (decimalDigits n.natAbs).length ≤ integerDigitLimit → IsPlain (.integer n)
  | real {x : Binary64} : x.isFinite = true → IsPlain (.real x)
  | text (s : String) : IsPlain (.text s)
  | array {items : List Json} : (∀ v ∈ items, IsPlain v) → IsPlain (.array items)
  | object {members : List (String × Json)} : (∀ m ∈ members, IsPlain m.2) →
      IsPlain (.object members)

section Texts

variable (style : JsonStyle) (level : Nat)

theorem writeItems_eq (items : List Json) :
    writeItems style level items = items.map (write style level) := by
  induction items with
  | nil => rfl
  | cons v rest ih => rw [writeItems, ih, List.map_cons]

def writeMember (member : String × Json) : String :=
  style.quote member.1 ++ style.nameEnd ++ member.2.write style level

theorem writeMembers_eq (members : List (String × Json)) :
    writeMembers style level members = members.map (writeMember style level) := by
  induction members with
  | nil => rfl
  | cons m rest ih =>
    obtain ⟨k, v⟩ := m
    rw [writeMembers, ih, List.map_cons]
    rfl

private theorem isGap_lineBreak : ∀ c ∈ (style.lineBreak level).toList, isGap c = true := by
  unfold JsonStyle.lineBreak
  split
  · simp
  · intro c m
    rw [String.toList_ofList] at m
    rcases List.mem_cons.mp m with rfl | m
    · rfl
    · rw [(List.mem_replicate.mp m).2]
      rfl

private theorem intercalate_cons (separator first : List Char) (others : List (List Char)) :
    separator.intercalate (first :: others) =
      first ++ others.flatMap fun other => separator ++ other := by
  induction others generalizing first with
  | nil => simp
  | cons second others ih =>
    rw [List.intercalate_cons_cons, ih, List.flatMap_cons, List.append_assoc, List.append_assoc]

theorem toList_bracket_nil (opening closing : String) :
    (style.bracket level opening closing []).toList = opening.toList ++ closing.toList := by
  unfold JsonStyle.bracket
  rw [List.isEmpty_nil, if_pos rfl, String.toList_append]

theorem toList_bracket {α : Type} (opening closing : String) (write : α → String) (first : α)
    (others : List α) :
    (style.bracket level opening closing ((first :: others).map write)).toList =
      opening.toList ++ ((style.lineBreak (level + 1)).toList ++ ((write first).toList ++
        (others.flatMap (fun other => ',' :: ((style.lineBreak (level + 1)).toList ++
          (write other).toList)) ++ ((style.lineBreak level).toList ++ closing.toList)))) := by
  unfold JsonStyle.bracket
  rw [List.map_cons, List.isEmpty_cons, if_neg (by decide)]
  simp only [String.toList_append, String.toList_intercalate, List.map_cons, intercalate_cons,
    List.append_assoc, List.flatMap_map, List.map_map]
  rfl

end Texts

section Runs

variable {dialect : JsonDialect} {stack : List Frame}

private theorem run_word {state next : Reading} {cs rest : List Char} {token : Token}
    (spells : Spells dialect cs token) (ends : EndsNumber rest)
    (step : state.step dialect token = .ok next) :
    state.run dialect (tokens dialect (cs ++ rest)) = next.run dialect (tokens dialect rest) := by
  rw [spells.tokens_append ends, Reading.run, step]

private theorem run_mark {state next : Reading} {c : Char} {rest : List Char} {token : Token}
    (solid : isGap c = false) (word : word? dialect c rest = some (token, rest))
    (step : state.step dialect token = .ok next) :
    state.run dialect (tokens dialect (c :: rest)) = next.run dialect (tokens dialect rest) := by
  rw [tokens_of_word solid word, Reading.run, step]

/-- A text after which a value is in hand, wherever it stands. -/
def Reads (dialect : JsonDialect) (v : Json) (cs : List Char) : Prop :=
  ∀ stack mayClose rest, EndsNumber rest → stack.length + v.depth ≤ dialect.depth →
    (Reading.value stack mayClose).run dialect (tokens dialect (cs ++ rest)) =
      (Reading.after v stack).run dialect (tokens dialect rest)

private theorem reads_of_spells {v : Json} {cs : List Char}
    (spells : Spells dialect cs (.scalar v)) :
    Reads dialect v cs := by
  intro stack mayClose rest ends deep
  have shallow : stack.length ≤ dialect.depth := by omega
  exact run_word spells ends (by simp [Reading.step, shallow])

private theorem endsNumber_of_mark {c : Char} (rest : List Char)
    (mark : c.isDigit = false ∧ c ≠ '.' ∧ c ≠ 'e' ∧ c ≠ 'E') : EndsNumber (c :: rest) := by
  rintro d ⟨⟩
  exact mark

private theorem endsNumber_of_gaps {gaps rest : List Char} (all : ∀ c ∈ gaps, isGap c = true)
    (ends : EndsNumber rest) : EndsNumber (gaps ++ rest) := by
  cases gaps with
  | nil => exact ends
  | cons c gaps =>
    have gap := all c (List.mem_cons_self ..)
    simp only [isGap, Bool.or_eq_true, decide_eq_true_eq] at gap
    refine endsNumber_of_mark _ ?_
    rcases gap with ((rfl | rfl) | rfl) | rfl <;> decide

/-- How a reader goes from one entry of an array or an object to the next, and to the end. -/
structure Lists {α : Type} (dialect : JsonDialect) (start : List α → Bool → Reading)
    (stop : List α → α → Reading) (done : List α → Reading) (bracket : Char) (closing : Token) :
    Prop where
  comma : ∀ earlier a, (stop earlier a).step dialect .comma = .ok (start (a :: earlier) false)
  close : ∀ earlier a, (stop earlier a).step dialect closing = .ok (done (a :: earlier).reverse)
  mark : bracket.isDigit = false ∧ bracket ≠ '.' ∧ bracket ≠ 'e' ∧ bracket ≠ 'E'
  solid : isGap bracket = false
  word : ∀ rest, word? dialect bracket rest = some (closing, rest)

section Entries

variable {α : Type} {start : List α → Bool → Reading} {stop : List α → α → Reading}
  {done : List α → Reading} {bracket : Char} {closing : Token} {text : α → List Char}
  {gaps gaps' : List Char}

/-- The entries after the first, each after a comma. -/
def others (text : α → List Char) (gaps : List Char) (entries : List α) : List Char :=
  entries.flatMap fun a => ',' :: (gaps ++ text a)

private theorem Lists.endsNumber (lists : Lists dialect start stop done bracket closing)
    (text : α → List Char) (gaps : List Char) (blank : ∀ c ∈ gaps', isGap c = true)
    (entries : List α) (rest : List Char) :
    EndsNumber (others text gaps entries ++ (gaps' ++ bracket :: rest)) := by
  cases entries with
  | nil =>
    show EndsNumber (gaps' ++ bracket :: rest)
    exact endsNumber_of_gaps blank (endsNumber_of_mark rest lists.mark)
  | cons => exact endsNumber_of_mark _ (by decide)

private theorem Lists.run_others (lists : Lists dialect start stop done bracket closing)
    (blank : ∀ c ∈ gaps, isGap c = true) (blank' : ∀ c ∈ gaps', isGap c = true) {entries : List α}
    (entry : ∀ a ∈ entries, ∀ earlier mayClose rest, EndsNumber rest →
      (start earlier mayClose).run dialect (tokens dialect (text a ++ rest)) =
        (stop earlier a).run dialect (tokens dialect rest)) (earlier : List α) (a : α)
    (rest : List Char) :
    (stop earlier a).run dialect
        (tokens dialect (others text gaps entries ++ (gaps' ++ bracket :: rest))) =
      (done (earlier.reverse ++ a :: entries)).run dialect (tokens dialect rest) := by
  induction entries generalizing earlier a with
  | nil =>
    rw [others, List.flatMap_nil, List.nil_append, tokens_of_gaps blank',
      run_mark lists.solid (lists.word rest) (lists.close earlier a), List.reverse_cons]
  | cons b entries ih =>
    have ends := lists.endsNumber text gaps blank' entries rest
    have later := ih fun c m => entry c (List.mem_cons_of_mem b m)
    rw [others, List.flatMap_cons, List.cons_append, List.cons_append,
      run_mark rfl rfl (lists.comma earlier a), List.append_assoc, List.append_assoc,
      tokens_of_gaps blank, ← others, entry b (List.mem_cons_self ..) _ _ _ ends, later,
      List.reverse_cons, List.append_assoc]
    rfl

private theorem Lists.run (lists : Lists dialect start stop done bracket closing)
    (blank : ∀ c ∈ gaps, isGap c = true) (blank' : ∀ c ∈ gaps', isGap c = true)
    (text : α → List Char) (first : α) (entries : List α)
    (entry : ∀ a ∈ first :: entries, ∀ earlier mayClose rest, EndsNumber rest →
      (start earlier mayClose).run dialect (tokens dialect (text a ++ rest)) =
        (stop earlier a).run dialect (tokens dialect rest)) (rest : List Char) :
    (start [] true).run dialect (tokens dialect
        (gaps ++ (text first ++ (others text gaps entries ++ (gaps' ++ bracket :: rest))))) =
      (done (first :: entries)).run dialect (tokens dialect rest) := by
  have ends := lists.endsNumber text gaps blank' entries rest
  rw [tokens_of_gaps blank, entry first (List.mem_cons_self ..) [] true _ ends]
  exact lists.run_others blank blank' (fun a m => entry a (List.mem_cons_of_mem first m)) [] first
    rest

end Entries

private theorem lists_items (dialect : JsonDialect) (stack : List Frame) :
    Lists dialect (fun earlier mayClose => .value (.items earlier :: stack) mayClose)
      (fun earlier v => .after v (.items earlier :: stack))
      (fun items => .after (.array items) stack) ']' .closeArray where
  comma _ _ := rfl
  close _ _ := rfl
  mark := by decide
  solid := rfl
  word _ := rfl

private theorem lists_members (dialect : JsonDialect) (stack : List Frame) :
    Lists dialect (fun earlier mayClose => .name earlier stack mayClose)
      (fun earlier (m : String × Json) => .after m.2 (.members earlier (some m.1) :: stack))
      (fun members => .after (.object members) stack) '\x7d' .closeObject where
  comma _ _ := rfl
  close _ _ := rfl
  mark := by decide
  solid := rfl
  word _ := rfl

end Runs

section Values

variable {dialect : JsonDialect} {style : JsonStyle}

private theorem depth_of_mem {v : Json} {items : List Json} (m : v ∈ items) :
    v.depth ≤ depthOfItems items := by
  induction items with
  | nil => cases m
  | cons w rest ih =>
    rw [depthOfItems]
    rcases List.mem_cons.mp m with rfl | m
    · exact le_max_left _ _
    · exact (ih m).trans (le_max_right _ _)

private theorem depth_of_mem_members {member : String × Json} {members : List (String × Json)}
    (m : member ∈ members) : member.2.depth ≤ depthOfMembers members := by
  induction members with
  | nil => cases m
  | cons w rest ih =>
    obtain ⟨k, v⟩ := w
    rw [depthOfMembers]
    rcases List.mem_cons.mp m with rfl | m
    · exact le_max_left _ _
    · exact (ih m).trans (le_max_right _ _)

theorem depthOfItems_le {items : List Json} {n : Nat} (each : ∀ v ∈ items, v.depth ≤ n) :
    depthOfItems items ≤ n := by
  induction items with
  | nil => exact Nat.zero_le n
  | cons v rest ih =>
    obtain ⟨first, others⟩ := List.forall_mem_cons.mp each
    rw [depthOfItems]
    exact max_le first (ih others)

theorem depthOfMembers_le {members : List (String × Json)} {n : Nat}
    (each : ∀ m ∈ members, m.2.depth ≤ n) : depthOfMembers members ≤ n := by
  induction members with
  | nil => exact Nat.zero_le n
  | cons m rest ih =>
    obtain ⟨first, others⟩ := List.forall_mem_cons.mp each
    obtain ⟨k, v⟩ := m
    rw [depthOfMembers]
    exact max_le first (ih others)

private theorem reads_array {items : List Json} (level : Nat)
    (each : ∀ v ∈ items, Reads dialect v (v.write style (level + 1)).toList) :
    Reads dialect (.array items) ((Json.array items).write style level).toList := by
  intro stack mayClose rest ends deep
  have shallow : stack.length < dialect.depth := by
    rw [depth] at deep
    omega
  have opens : (Reading.value stack mayClose).step dialect .openArray =
      .ok (.value (.items [] :: stack) true) := by simp [Reading.step, shallow]
  rw [write, writeItems_eq]
  cases items with
  | nil =>
    rw [List.map_nil, toList_bracket_nil]
    show (Reading.value stack mayClose).run dialect (tokens dialect ('[' :: ']' :: rest)) = _
    have closes : (Reading.value (.items [] :: stack) true).step dialect .closeArray =
        .ok (.after (.array []) stack) := rfl
    rw [run_mark rfl rfl opens, run_mark rfl rfl closes]
  | cons first others =>
    have entries := (lists_items dialect stack).run
      (isGap_lineBreak style (level + 1)) (isGap_lineBreak style level)
      (fun v => (v.write style (level + 1)).toList) first others
      (fun v m earlier mayClose rest ends => by
        have own := depth_of_mem m
        rw [depth] at deep
        refine each v m (.items earlier :: stack) mayClose rest ends ?_
        rw [List.length_cons]
        omega) rest
    rw [toList_bracket]
    simp only [List.append_assoc]
    exact (run_mark rfl rfl opens).trans entries

private theorem reads_member (legible : style.IsLegible) (level : Nat) (m : String × Json)
    (value : Reads dialect m.2 (m.2.write style level).toList) {stack : List Frame}
    (earlier : List (String × Json)) (mayClose : Bool) {rest : List Char} (ends : EndsNumber rest)
    (deep : stack.length + 1 + m.2.depth ≤ dialect.depth) :
    (Reading.name earlier stack mayClose).run dialect
        (tokens dialect ((writeMember style level m).toList ++ rest)) =
      (Reading.after m.2 (.members earlier (some m.1) :: stack)).run dialect
        (tokens dialect rest) := by
  obtain ⟨gaps, separator, blank⟩ := legible.nameEnd
  unfold writeMember
  rw [String.toList_append, String.toList_append, separator, List.append_assoc, List.append_assoc]
  have mark : EndsNumber (':' :: (gaps ++ ((m.2.write style level).toList ++ rest))) :=
    endsNumber_of_mark _ (by decide)
  have named : (Reading.name earlier stack mayClose).step dialect (.scalar (.text m.1)) =
      .ok (.colon earlier (some m.1) stack) := by simp [Reading.step]
  have parted : (Reading.colon earlier (some m.1) stack).step dialect .colon =
      .ok (.value (.members earlier (some m.1) :: stack) false) := rfl
  refine (run_word (spells_quote dialect style m.1) mark named).trans ?_
  rw [run_mark rfl rfl parted, tokens_of_gaps blank]
  exact value _ false rest ends deep

private theorem reads_object (legible : style.IsLegible) {members : List (String × Json)}
    (level : Nat)
    (each : ∀ m ∈ members, Reads dialect m.2 (m.2.write style (level + 1)).toList) :
    Reads dialect (.object members) ((Json.object members).write style level).toList := by
  intro stack mayClose rest ends deep
  have shallow : stack.length < dialect.depth := by
    rw [depth] at deep
    omega
  have opens : (Reading.value stack mayClose).step dialect .openObject =
      .ok (.name [] stack true) := by simp [Reading.step, shallow]
  rw [write, writeMembers_eq]
  cases members with
  | nil =>
    rw [List.map_nil, toList_bracket_nil]
    show (Reading.value stack mayClose).run dialect (tokens dialect ('\x7b' :: '\x7d' :: rest)) = _
    have closes : (Reading.name [] stack true).step dialect .closeObject =
        .ok (.after (.object []) stack) := rfl
    rw [run_mark rfl rfl opens, run_mark rfl rfl closes]
  | cons first others =>
    have entries := (lists_members dialect stack).run
      (isGap_lineBreak style (level + 1)) (isGap_lineBreak style level)
      (fun m => (writeMember style (level + 1) m).toList) first others
      (fun m there earlier mayClose rest ends => by
        have own := depth_of_mem_members there
        rw [depth] at deep
        exact reads_member legible (level + 1) m (each m there) earlier mayClose ends
          (by omega)) rest
    rw [toList_bracket]
    simp only [List.append_assoc]
    exact (run_mark rfl rfl opens).trans entries

private theorem reads_write (dialect : JsonDialect) (legible : style.IsLegible) {v : Json}
    (plain : v.IsPlain) (level : Nat) : Reads dialect v (v.write style level).toList := by
  induction plain generalizing level with
  | null => exact reads_of_spells (spells_null dialect)
  | truth b => exact reads_of_spells (spells_truth dialect b)
  | integer short => exact reads_of_spells (spells_integer short)
  | @real x finite =>
    have shown : (Json.real x).write style level = style.numbers.write x := by
      rw [write, finite]
      simp
    rw [shown]
    exact reads_of_spells (spells_write legible.numbers finite)
  | text s => exact reads_of_spells (spells_quote dialect style s)
  | array _ ih => exact reads_array level fun v m => ih v m (level + 1)
  | object _ ih => exact reads_object legible level fun m there => ih m there (level + 1)

/-- A value that a text holds in full is read back from its text in any style. -/
theorem read_render (dialect : JsonDialect) (legible : style.IsLegible) {v : Json}
    (plain : v.IsPlain) (deep : v.depth ≤ dialect.depth) :
    read dialect (v.render style).toList = .ok v := by
  have reads := reads_write dialect legible plain 0 [] false [] nofun (by simpa using deep)
  rw [List.append_nil] at reads
  unfold read render
  rw [reads]
  rfl

end Values

end Json

end Tracing
