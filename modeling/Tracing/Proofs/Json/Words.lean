import Tracing.Proofs.Json.Numeral
import Tracing.Proofs.Json.Quoting
/-!
Words of a JSON text. Every word takes a character at least, so a text has as many words as there
are, however much fuel is given; and every scalar that is written is one word, read as the scalar.
-/

set_option autoImplicit false
set_option relaxedAutoImplicit false

namespace Tracing

namespace Json

section Suffixes

variable {c : Char} {cs ds rest after : List Char}

private theorem suffix_of_quotedBody {units : List Nat} (h : quotedBody cs = some (units, after)) :
    after <:+ cs := by
  fun_induction quotedBody cs generalizing units after with
  | case1 | case3 | case5 | case7 => cases h
  | case2 rest =>
    cases h
    exact List.suffix_cons _ _
  | case4 a b c d rest u _ ih =>
    obtain ⟨⟨units', after'⟩, later, same⟩ := Option.map_eq_some_iff.mp h
    cases same
    exact (ih later).trans (List.suffix_append [_, _, a, b, c, d] rest)
  | case6 c rest _ e _ ih =>
    obtain ⟨⟨units', after'⟩, later, same⟩ := Option.map_eq_some_iff.mp h
    cases same
    exact (ih later).trans (List.suffix_append [_, c] rest)
  | case8 c rest _ _ _ _ ih =>
    obtain ⟨⟨units', after'⟩, later, same⟩ := Option.map_eq_some_iff.mp h
    cases same
    exact (ih later).trans (List.suffix_cons c rest)

private theorem suffix_of_spanDigits (h : spanDigits cs = (ds, after)) : after <:+ cs := by
  unfold spanDigits at h
  rw [List.span_eq_takeWhile_dropWhile] at h
  cases h
  exact List.dropWhile_suffix _

private theorem suffix_of_whole? (h : whole? (c :: rest) = some (ds, after)) : after <:+ rest := by
  unfold whole? at h
  split at h
  case h_1 same =>
    cases same
    cases h
    exact List.suffix_refl _
  case h_2 =>
    split at h
    case h_1 => cases h
    case h_2 ds' after' some spanned =>
      cases h
      unfold spanDigits at spanned
      rw [List.span_eq_takeWhile_dropWhile] at spanned
      injection spanned with taken left
      cases digit : c.isDigit with
      | true =>
        rw [List.dropWhile_cons_of_pos digit] at left
        exact left ▸ List.dropWhile_suffix _
      | false =>
        rw [List.takeWhile_cons_of_neg (by simp [digit])] at taken
        exact absurd taken.symm some

private theorem suffix_of_fraction? (h : fraction? cs = some (ds, after)) : after <:+ cs := by
  unfold fraction? at h
  split at h
  case h_1 =>
    split at h
    case h_1 => cases h
    case h_2 spanned =>
      cases h
      exact (suffix_of_spanDigits spanned).trans (List.suffix_cons _ _)
  case h_2 =>
    cases h
    exact List.suffix_refl _

private theorem suffix_of_exponent? {e : Option Int} (h : exponent? cs = some (e, after)) :
    after <:+ cs := by
  cases cs with
  | nil =>
    cases h
    exact List.suffix_refl _
  | cons c rest =>
    unfold exponent? at h
    dsimp only at h
    split at h
    case isTrue =>
      split at h
      case h_1 => cases h
      case h_2 spanned =>
        cases h
        refine (suffix_of_spanDigits spanned).trans
          (List.IsSuffix.trans ?_ (List.suffix_cons c rest))
        split
        · exact List.suffix_cons _ _
        · exact List.suffix_cons _ _
        · exact List.suffix_refl _
    case isFalse =>
      cases h
      exact List.suffix_refl _

private theorem suffix_of_number? {dialect : JsonDialect} {negative : Bool} {token : Token}
    (h : number? dialect negative (c :: rest) = some (token, after)) : after <:+ rest := by
  unfold number? at h
  simp only [Option.bind_eq_bind, Option.bind_eq_some_iff, Prod.exists] at h
  obtain ⟨ds, point, whole, fs, tail, fraction, e, left, exponent, h⟩ := h
  have suffix := (suffix_of_exponent? exponent).trans
    ((suffix_of_fraction? fraction).trans (suffix_of_whole? whole))
  split at h
  · cases h
    exact suffix
  · split at h
    · cases h
      exact suffix
    · cases h
      exact suffix

private theorem suffix_of_after? {word : List Char} (h : after? word cs = some after) :
    after <:+ cs := by
  induction word generalizing cs with
  | nil =>
    cases h
    exact List.suffix_refl _
  | cons w ws ih =>
    cases cs with
    | nil => cases h
    | cons c rest =>
      unfold after? at h
      split at h
      · exact (ih h).trans (List.suffix_cons _ _)
      · cases h

private theorem suffix_of_named? {token : Token} (h : named? (c :: rest) = some (token, after)) :
    after <:+ rest := by
  obtain ⟨⟨word, value⟩, named, found⟩ := List.exists_of_findSome?_eq_some h
  obtain ⟨after', left, same⟩ := Option.map_eq_some_iff.mp found
  cases same
  have some : word ≠ [] := by
    rintro rfl
    exact absurd (List.mem_map_of_mem named) (by decide : ([] : List Char) ∉ names.map Prod.fst)
  obtain ⟨w, ws, rfl⟩ := List.exists_cons_of_ne_nil some
  unfold after? at left
  split at left
  · exact suffix_of_after? left
  · cases left

private theorem suffix_of_word? {dialect : JsonDialect} {token : Token}
    (h : word? dialect c rest = some (token, after)) : after <:+ rest := by
  unfold word? at h
  split at h
  case h_7 =>
    simp only [Option.bind_eq_bind, Option.bind_eq_some_iff, Prod.exists] at h
    obtain ⟨units, left, body, v, -, same⟩ := h
    cases same
    exact suffix_of_quotedBody body
  case h_8 =>
    split at h
    · exact suffix_of_named? h
    · cases rest with
      | nil => cases h
      | cons d tail => exact (suffix_of_number? h).trans (List.suffix_cons d tail)
  case h_9 =>
    split at h
    · exact suffix_of_number? h
    · exact suffix_of_named? h
  all_goals
    cases h
    exact List.suffix_refl _

end Suffixes

section Fuel

variable {dialect : JsonDialect}

private theorem tokensWithin_of_length_le {fuel fuel' : Nat} {cs : List Char}
    (enough : cs.length ≤ fuel)
    (enough' : cs.length ≤ fuel') :
    tokensWithin dialect fuel cs = tokensWithin dialect fuel' cs := by
  induction fuel generalizing fuel' cs with
  | zero =>
    rw [List.eq_nil_of_length_eq_zero (Nat.le_zero.mp enough)]
    cases fuel' <;> rfl
  | succ fuel ih =>
    cases cs with
    | nil => cases fuel' <;> rfl
    | cons c rest =>
      obtain ⟨fuel', rfl⟩ := Nat.exists_eq_succ_of_ne_zero (Nat.ne_zero_of_lt enough')
      unfold tokensWithin
      split
      · exact ih (Nat.le_of_succ_le_succ enough) (Nat.le_of_succ_le_succ enough')
      · split
        case h_1 => rfl
        case h_2 token after there =>
          have shorter := (suffix_of_word? there).length_le
          rw [ih (shorter.trans (Nat.le_of_succ_le_succ enough))
            (shorter.trans (Nat.le_of_succ_le_succ enough'))]

private theorem tokens_of_gap {c : Char} (gap : isGap c = true) (rest : List Char) :
    tokens dialect (c :: rest) = tokens dialect rest := by
  unfold tokens
  rw [List.length_cons, tokensWithin, if_pos gap]

theorem tokens_of_word {c : Char} {rest after : List Char} {token : Token}
    (solid : isGap c = false) (word : word? dialect c rest = some (token, after)) :
    tokens dialect (c :: rest) = token :: tokens dialect after := by
  have shorter := (suffix_of_word? word).length_le
  unfold tokens
  rw [List.length_cons, tokensWithin, solid, word,
    ← tokensWithin_of_length_le shorter (le_refl after.length)]
  rfl

theorem tokens_of_gaps {gaps : List Char} (all : ∀ c ∈ gaps, isGap c = true) (rest : List Char) :
    tokens dialect (gaps ++ rest) = tokens dialect rest := by
  induction gaps with
  | nil => rfl
  | cons c gaps ih =>
    obtain ⟨first, others⟩ := List.forall_mem_cons.mp all
    rw [List.cons_append, tokens_of_gap first, ih others]

end Fuel

/-- A text that is one word, whatever follows it, if only a number may end there. -/
def Spells (dialect : JsonDialect) (cs : List Char) (token : Token) : Prop :=
  ∀ rest, EndsNumber rest → ∃ c tail, cs ++ rest = c :: tail ∧ isGap c = false ∧
    word? dialect c tail = some (token, rest)

section Spelling

variable {dialect : JsonDialect} {cs rest : List Char}

theorem Spells.tokens_append {token : Token} (spells : Spells dialect cs token)
    (ends : EndsNumber rest) : tokens dialect (cs ++ rest) = token :: tokens dialect rest := by
  obtain ⟨c, tail, same, solid, word⟩ := spells rest ends
  rw [same]
  exact tokens_of_word solid word

private theorem word?_of_digit (dialect : JsonDialect) {c : Char} (digit : c.isDigit = true)
    (tail : List Char) :
    isGap c = false ∧ word? dialect c tail = number? dialect false (c :: tail) := by
  have other : ∀ x : Char, x.isDigit = false → c ≠ x := by
    rintro x no rfl
    rw [digit] at no
    cases no
  constructor
  · simp [isGap, other ' ' rfl, other '\t' rfl, other '\n' rfl, other '\r' rfl]
  · unfold word?
    split
    case h_9 => rw [if_pos digit]
    all_goals cases digit

private theorem isDigit_of_whole? {ds after : List Char} (h : whole? cs = some (ds, after)) :
    ∃ c tail, cs = c :: tail ∧ c.isDigit = true := by
  cases cs with
  | nil => cases h
  | cons c tail =>
    refine ⟨c, tail, rfl, ?_⟩
    unfold whole? at h
    split at h
    case h_1 same =>
      cases same
      rfl
    case h_2 =>
      by_contra other
      unfold spanDigits at h
      rw [List.span_eq_takeWhile_dropWhile, List.takeWhile_cons_of_neg other] at h
      cases h

private theorem isDigit_of_number? {negative : Bool} {result : Token × List Char}
    (h : number? dialect negative cs = some result) :
    ∃ c tail, cs = c :: tail ∧ c.isDigit = true := by
  unfold number? at h
  obtain ⟨⟨ds, point⟩, whole, -⟩ := Option.bind_eq_some_iff.mp h
  exact isDigit_of_whole? whole

private theorem spells_of_number? (dialect : JsonDialect) (token : Bool → Token)
    (h : ∀ negative rest, EndsNumber rest →
      number? dialect negative (cs ++ rest) = some (token negative, rest)) (negative : Bool) :
    Spells dialect (if negative then '-' :: cs else cs) (token negative) := by
  intro rest ends
  have read := h negative rest ends
  obtain ⟨c, tail, same, digit⟩ := isDigit_of_number? read
  rw [same] at read
  cases negative with
  | false =>
    obtain ⟨solid, word⟩ := word?_of_digit dialect digit tail
    exact ⟨c, tail, same, solid, word.trans read⟩
  | true =>
    refine ⟨'-', c :: tail, congrArg _ same, rfl, ?_⟩
    have other : (c :: tail).head? ≠ some 'I' := by
      rintro ⟨⟩
      cases digit
    show (if _ then _ else _) = _
    rw [if_neg other]
    exact read

/-- A finite number is read back from any notation that is short enough. -/
theorem spells_write {style : FloatNotation} (short : style.positionalBelow ≤ integerDigitLimit)
    {x : Binary64} (finite : x.isFinite = true) :
    Spells dialect (style.write x).toList (.scalar (.real x)) := by
  cases x with
  | nan | infinite => cases finite
  | finite negative m e canonical =>
    unfold FloatNotation.write
    rw [String.toList_ofList]
    refine spells_of_number? dialect (fun sign => .scalar (.real (.finite sign m e canonical)))
      (fun sign rest ends => ?_) negative
    by_cases none : m = 0
    · obtain ⟨-, -, -, full⟩ := id canonical
      have bottom : e = -1074 := full.resolve_left (by rw [none]; decide)
      cases none
      cases bottom
      have single : AreDigits ['0'] := ⟨List.cons_ne_nil _ _, isDigit_replicate_zero 1⟩
      have whole : whole? ('0' :: '.' :: '0' :: rest) = some (['0'], '.' :: '0' :: rest) := rfl
      exact number?_of_parts dialect sign whole
        (fraction?_append rest single fun c m => (ends c m).1)
        (exponent?_of_head fun c m => (ends c m).2.2) (fun none => absurd none single.1) (by decide)
    · rw [if_neg none, number?_layout dialect sign short
        (Binary64.digits_shortest_ne_zero negative canonical none) ends,
        Binary64.round_shortest sign negative canonical none]

theorem spells_integer {n : Int}
    (short : (decimalDigits n.natAbs).length ≤ integerDigitLimit) :
    Spells dialect (toString n).toList (.scalar (.integer n)) := by
  have spells := spells_of_number? dialect
    (fun sign => .scalar (.integer (if sign then -n.natAbs else n.natAbs)))
    (fun sign rest ends => number?_decimalDigits dialect sign short ends) (decide (n < 0))
  rw [Int.toString_eq_repr, Int.repr_eq_if]
  by_cases below : n < 0
  · have size : (-n).toNat = n.natAbs := by omega
    have value : -(n.natAbs : Int) = n := by omega
    rw [if_neg (not_le.mpr below), size, String.toList_append, Nat.toList_repr]
    simp only [below, decide_true, if_true, value] at spells
    exact spells
  · have size : n.toNat = n.natAbs := by omega
    have value : (n.natAbs : Int) = n := by omega
    rw [if_pos (not_lt.mp below), size, Nat.toList_repr]
    simp only [below, decide_false, Bool.false_eq_true, if_false, value] at spells
    exact spells

theorem spells_quote (dialect : JsonDialect) (style : JsonStyle) (s : String) :
    Spells dialect (style.quote s).toList (.scalar (.text s)) := by
  intro rest _
  refine ⟨'"', s.toList.flatMap style.escape ++ '"' :: rest, ?_, rfl, ?_⟩
  · unfold JsonStyle.quote
    rw [String.toList_ofList]
    simp
  · show (quotedBody _).bind _ = _
    rw [JsonStyle.quotedBody_escapes]
    show (quoted? dialect _).bind _ = _
    rw [JsonStyle.quoted?_units]
    rfl

theorem spells_null (dialect : JsonDialect) : Spells dialect "null".toList (.scalar .null) :=
  fun rest _ => ⟨'n', 'u' :: 'l' :: 'l' :: rest, rfl, rfl, rfl⟩

theorem spells_truth (dialect : JsonDialect) (b : Bool) :
    Spells dialect (if b then "true" else "false").toList (.scalar (.truth b)) := by
  intro rest _
  cases b with
  | true => exact ⟨'t', 'r' :: 'u' :: 'e' :: rest, rfl, rfl, rfl⟩
  | false => exact ⟨'f', 'a' :: 'l' :: 's' :: 'e' :: rest, rfl, rfl, rfl⟩

end Spelling

end Json

end Tracing
