import Mathlib.Data.Int.ModEq
import Tracing.Proofs.Json.Quoting
import Tracing.Sampling.Rate
import Tracing.Span.Given
/-!
Exported texts of identifiers. An identifier of any size is exported as sixteen digits that are read
as its low 64 bits, and a share looks at no more of it; so whoever has the exported text of a trace
knows whether it is sampled.
-/

set_option autoImplicit false
set_option relaxedAutoImplicit false

namespace Tracing

namespace Text

/-- The number that hexadecimal digits write, the greatest digit first. -/
def hexNumber? (ds : List Char) : Option Nat :=
  ds.foldlM (fun n d => (Json.hexValue? d).map (16 * n + ·)) 0

def smallHexDigits : List Char := "0123456789abcdef".toList

section Digits

private theorem hexNumber?_concat (ds : List Char) (d : Char) :
    hexNumber? (ds ++ [d]) =
      (hexNumber? ds).bind fun n => (Json.hexValue? d).map (16 * n + ·) := by
  unfold hexNumber?
  rw [List.foldlM_append]
  apply bind_congr
  intro n
  simp

private theorem hexNumber?_zeros_append (k : Nat) (ds : List Char) :
    hexNumber? (List.replicate k '0' ++ ds) = hexNumber? ds := by
  induction k with
  | zero => rfl
  | succ k ih =>
    rw [List.replicate_succ, List.cons_append, ← ih]
    rfl

private theorem hexNumber?_toDigits (n : Nat) : hexNumber? (Nat.toDigits 16 n) = some n := by
  induction n using Nat.strong_induction_on with
  | h n ih =>
    rw [Nat.toDigits_eq_if (by decide)]
    split
    case isTrue single =>
      have first := hexNumber?_concat [] n.digitChar
      rw [JsonStyle.hexValue?_digitChar n single] at first
      simpa [hexNumber?] using first
    case isFalse =>
      have last : n % 16 < 16 := Nat.mod_lt n (by decide)
      rw [hexNumber?_concat, ih (n / 16) (by omega), JsonStyle.hexValue?_digitChar _ last]
      simp only [Option.bind_some, Option.map_some]
      congr 1
      omega

private theorem mem_smallHexDigits_toDigits {n : Nat} {d : Char} (digit : d ∈ Nat.toDigits 16 n) :
    d ∈ smallHexDigits := by
  have each : ∀ k < 16, Nat.digitChar k ∈ smallHexDigits := by decide
  induction n using Nat.strong_induction_on with
  | h n ih =>
    rw [Nat.toDigits_eq_if (by decide)] at digit
    split at digit
    case isTrue single =>
      rw [List.mem_singleton.mp digit]
      exact each n single
    case isFalse =>
      rcases List.mem_append.mp digit with before | last
      · exact ih (n / 16) (by omega) before
      · rw [List.mem_singleton.mp last]
        exact each _ (Nat.mod_lt n (by decide))

private theorem hexNumber?_hexPadded (width n : Nat) : hexNumber? (hexPadded width n) = some n := by
  unfold hexPadded
  rw [hexNumber?_zeros_append, hexNumber?_toDigits]

private theorem mem_smallHexDigits_hexPadded {width n : Nat} {d : Char}
    (digit : d ∈ hexPadded width n) :
    d ∈ smallHexDigits := by
  rcases List.mem_append.mp digit with padding | proper
  · rw [(List.mem_replicate.mp padding).2]
    decide
  · exact mem_smallHexDigits_toDigits proper

private theorem length_hexPadded {width n : Nat} (room : 0 < width) (short : n < 16 ^ width) :
    (hexPadded width n).length = width := by
  have fits : (Nat.toDigits 16 n).length ≤ width :=
    (Nat.length_toDigits_le_iff (by decide) room).mpr short
  unfold hexPadded
  rw [List.length_append, List.length_replicate]
  omega

end Digits

end Text

namespace Identifier

/-- A text of sixteen digits in small letters that are read as the low 64 bits of an identifier. -/
structure Writes (id : Int) (text : String) : Prop where
  length : text.length = 16
  digits : ∀ d ∈ text.toList, d ∈ Text.smallHexDigits
  reads : Text.hexNumber? text.toList = some (id % 2 ^ 64).toNat

section Exported

variable {a b : Int}

private theorem lowBits_eq (id : Int) : lowBits id = (id % 2 ^ 64).toNat := rfl

private theorem writes_exported (id : Int) : Writes id (exported id) := by
  have short : lowBits id < 16 ^ 16 := lowBits_lt id
  refine ⟨?_, ?_, ?_⟩
  · rw [exported, String.length_ofList, Text.length_hexPadded (by decide) short]
  · intro d digit
    rw [exported, String.toList_ofList] at digit
    exact Text.mem_smallHexDigits_hexPadded digit
  · rw [exported, String.toList_ofList, Text.hexNumber?_hexPadded, lowBits_eq]

private theorem lowBits_eq_iff : lowBits a = lowBits b ↔ a ≡ b [ZMOD 2 ^ 64] := by
  rw [lowBits_eq, lowBits_eq]
  unfold Int.ModEq
  omega

private theorem exported_eq_iff : exported a = exported b ↔ a ≡ b [ZMOD 2 ^ 64] := by
  rw [← lowBits_eq_iff]
  constructor
  · intro same
    have reads := (writes_exported a).reads
    rw [same, (writes_exported b).reads] at reads
    exact (Option.some.inj reads).symm
  · intro same
    rw [exported, same, exported]

private theorem signed_congr (same : a ≡ b [ZMOD 2 ^ 64]) : signed a = signed b := by
  unfold signed
  rw [lowBits_eq_iff.mpr same]

end Exported

end Identifier

namespace Rate

private theorem covers_congr (r : Rate) {a b : Int} (same : a ≡ b [ZMOD 2 ^ 64]) :
    r.covers a = r.covers b := by
  unfold covers
  rw [Identifier.signed_congr same]

end Rate

namespace Span

/-- The identifiers of a span by the names under which they are exported. -/
def identifiers (s : Span) : List (String × Int) :=
  [("trace_id", s.traceId), ("span_id", s.spanId), ("parent_id", s.parentId)]

/-- The identifiers are integers, and the tags are values by name. -/
def IsTyped (s : Span) : Prop :=
  ∀ name ∈ ["trace_id", "span_id", "parent_id", "tags"], s.misfit? name = none

private theorem exported_of_isTyped {s : Span} (typed : s.IsTyped) : s.exported = .ok s.toJson := by
  have trace := typed "trace_id" (by simp)
  have own := typed "span_id" (by simp)
  have parent := typed "parent_id" (by simp)
  have tags := typed "tags" (by simp)
  simp [exported, exportFault?, trace, own, parent, tags]

private theorem textAt?_toJson {s : Span} {m : String × Int} (member : m ∈ s.identifiers) :
    s.toJson.textAt? m.1 = some (Identifier.exported m.2) := by
  simp only [identifiers, List.mem_cons, List.not_mem_nil, or_false] at member
  rcases member with rfl | rfl | rfl
  · rfl
  · rfl
  · rfl

/-- Each identifier of a span is exported as the sixteen digits of its low 64 bits. Two are exported
alike if and only if they are congruent, and then every share samples both or neither; so does it
the number that an exported text writes. -/
theorem sampled_as_exported (s t : Span) (r : Rate) (typed : s.IsTyped) (typed' : t.IsTyped) :
    ∃ j k, s.exported = .ok j ∧ t.exported = .ok k ∧
      (∀ m ∈ s.identifiers, ∃ text, j.textAt? m.1 = some text ∧ Identifier.Writes m.2 text ∧
        ∀ n : Nat, Text.hexNumber? text.toList = some n → r.covers n = r.covers m.2) ∧
      ∀ m ∈ s.identifiers, ∀ m' ∈ t.identifiers,
        (j.textAt? m.1 = k.textAt? m'.1 ↔ m.2 ≡ m'.2 [ZMOD 2 ^ 64]) ∧
        (j.textAt? m.1 = k.textAt? m'.1 → r.covers m.2 = r.covers m'.2) := by
  refine ⟨s.toJson, t.toJson, exported_of_isTyped typed, exported_of_isTyped typed', ?_, ?_⟩
  · intro m member
    have writes := Identifier.writes_exported m.2
    refine ⟨_, textAt?_toJson member, writes, ?_⟩
    intro n read
    have low : n = (m.2 % 2 ^ 64).toNat := Option.some.inj (read.symm.trans writes.reads)
    apply r.covers_congr
    rw [low, Int.toNat_of_nonneg (Int.emod_nonneg _ (by decide))]
    exact Int.mod_modEq _ _
  · intro m member m' member'
    rw [textAt?_toJson member, textAt?_toJson member', Option.some.injEq,
      Identifier.exported_eq_iff]
    exact ⟨Iff.rfl, r.covers_congr⟩

/-- A trace below zero and its span, as they are given. -/
def lowest : Span := { traceId := -1, spanId := 255, operation := .text "op" }

/-- The same with identifiers of 64 bits and more. -/
def wrapped : Span :=
  { traceId := 0xFFFFFFFFFFFFFFFF, spanId := 0x100000000000000FF, operation := .text "op" }

/-- The trace -1 and the last one of 64 bits are one trace, also to a share of a thousandth. -/
theorem lowest_sampled_as_last : lowest.IsTyped ∧ wrapped.IsTyped ∧
    lowest.toJson.textAt? "trace_id" = some "ffffffffffffffff" ∧
    wrapped.toJson.textAt? "span_id" = some "00000000000000ff" ∧
    Rate.standard.covers lowest.traceId = Rate.standard.covers wrapped.traceId ∧
    Rate.standard.covers lowest.traceId = true := by
  have typed : lowest.IsTyped := fun _ _ => rfl
  have typed' : wrapped.IsTyped := fun _ _ => rfl
  obtain ⟨j, k, exported, exported', -, same⟩ :=
    sampled_as_exported lowest wrapped Rate.standard typed typed'
  cases exported
  cases exported'
  refine ⟨typed, typed', by decide +kernel, by decide +kernel, ?_, by decide +kernel⟩
  exact (same _ (.head _) _ (.head _)).2 (by decide +kernel)

end Span

end Tracing
