import Tracing.Json.Token
import Tracing.Proofs.Number.Decimal
/-!
Numbers in a JSON text. The text of a number is read up to its end, as an integer or as the decimal
that was laid out, so that a finite number is read back from every notation that does not write more
digits than a reader takes.
-/

set_option autoImplicit false
set_option relaxedAutoImplicit false

namespace Tracing

namespace Json

def EndsNumber (cs : List Char) : Prop :=
  ∀ c ∈ cs.head?, c.isDigit = false ∧ c ≠ '.' ∧ c ≠ 'e' ∧ c ≠ 'E'

/-- Whether a text is digits alone, and not none of them. -/
def AreDigits (ds : List Char) : Prop := ds ≠ [] ∧ ∀ d ∈ ds, d.isDigit = true

section Parts

variable {ds rest : List Char}

private theorem spanDigits_append (digits : ∀ d ∈ ds, d.isDigit = true)
    (ends : ∀ c ∈ rest.head?, c.isDigit = false) : spanDigits (ds ++ rest) = (ds, rest) := by
  have none : rest.takeWhile Char.isDigit = [] ∧ rest.dropWhile Char.isDigit = rest := by
    cases rest with
    | nil => exact ⟨rfl, rfl⟩
    | cons c tail =>
      have other : c.isDigit = false := ends c rfl
      simp [other]
  unfold spanDigits
  rw [List.span_eq_takeWhile_dropWhile, List.takeWhile_append_of_pos digits,
    List.dropWhile_append_of_pos digits, none.1, none.2, List.append_nil]

private theorem whole?_append (rest : List Char) (digits : AreDigits ds)
    (proper : ds = ['0'] ∨ ds.head? ≠ some '0')
    (ends : ∀ c ∈ rest.head?, c.isDigit = false) : whole? (ds ++ rest) = some (ds, rest) := by
  rcases proper with rfl | positive
  · rfl
  · obtain ⟨d, tail, rfl⟩ := List.exists_cons_of_ne_nil digits.1
    have other : d ≠ '0' := fun zero => positive (congrArg some zero)
    have taken := spanDigits_append digits.2 ends
    unfold whole?
    split
    case h_1 same =>
      injection same with first
      exact absurd first other
    case h_2 => rw [taken]

theorem fraction?_append (rest : List Char) (digits : AreDigits ds)
    (ends : ∀ c ∈ rest.head?, c.isDigit = false) :
    fraction? ('.' :: (ds ++ rest)) = some (ds, rest) := by
  obtain ⟨d, tail, rfl⟩ := List.exists_cons_of_ne_nil digits.1
  simp only [fraction?, spanDigits_append digits.2 ends]

private theorem fraction?_of_head (ends : ∀ c ∈ rest.head?, c ≠ '.') :
    fraction? rest = some ([], rest) := by
  unfold fraction?
  split
  · exact absurd rfl (ends '.' rfl)
  · rfl

theorem exponent?_of_head (ends : ∀ c ∈ rest.head?, c ≠ 'e' ∧ c ≠ 'E') :
    exponent? rest = some (none, rest) := by
  cases rest with
  | nil => rfl
  | cons c tail =>
    obtain ⟨small, capital⟩ := ends c rfl
    simp [exponent?, small, capital]

private theorem exponent?_append (rest : List Char) (n : Int) (digits : AreDigits ds)
    (counts : natOfDigits ds = n.natAbs) (ends : ∀ c ∈ rest.head?, c.isDigit = false) :
    exponent? ('e' :: (if n < 0 then '-' else '+') :: (ds ++ rest)) = some (some n, rest) := by
  obtain ⟨d, tail, rfl⟩ := List.exists_cons_of_ne_nil digits.1
  have taken := spanDigits_append digits.2 ends
  unfold exponent?
  by_cases below : n < 0
  · simp only [if_pos below, true_or, if_true, taken, counts]
    congr 3
    omega
  · simp only [if_neg below, true_or, if_true, taken, counts, Bool.false_eq_true, if_false]
    congr 3
    omega

end Parts

section Digits

private theorem natOfDigits_eq (ds : List Char) : natOfDigits ds = Nat.ofDigitChars 10 ds 0 := by
  simp only [natOfDigits, Nat.ofDigitChars, Nat.mul_comm]

private theorem natOfDigits_zeros_append (n : Nat) (ds : List Char) :
    natOfDigits (List.replicate n '0' ++ ds) = natOfDigits ds := by
  rw [natOfDigits_eq, natOfDigits_eq, Nat.ofDigitChars_append, Nat.ofDigitChars_replicate_zero,
    Nat.mul_zero]

private theorem natOfDigits_append_zeros (n : Nat) (ds : List Char) :
    natOfDigits (ds ++ List.replicate n '0') = natOfDigits ds * 10 ^ n := by
  rw [natOfDigits_eq, natOfDigits_eq, Nat.ofDigitChars_append, Nat.ofDigitChars_replicate_zero,
    Nat.mul_comm]

@[simp] theorem natOfDigits_decimalDigits (n : Nat) : natOfDigits (decimalDigits n) = n := by
  rw [natOfDigits_eq]
  exact Nat.ofDigitChars_ten_toDigits

private theorem areDigits_decimalDigits (n : Nat) : AreDigits (decimalDigits n) :=
  ⟨Nat.toDigits_ne_nil, fun _ m => Nat.isDigit_of_mem_toDigits (by decide) (by decide) m⟩

theorem isDigit_replicate_zero (n : Nat) : ∀ d ∈ List.replicate n '0', d.isDigit = true := by
  intro d m
  rw [(List.mem_replicate.mp m).2]
  rfl

private theorem head?_decimalDigits {n : Nat} (some : n ≠ 0) :
    (decimalDigits n).head? ≠ Option.some '0' := by
  unfold decimalDigits
  induction n using Nat.strongRecOn with
  | ind n ih =>
    rw [Nat.toDigits_eq_if (by decide)]
    split
    case isTrue small => simpa using some
    case isFalse large =>
      have fewer : n / 10 ≠ 0 := by omega
      rw [List.head?_append_of_ne_nil _ Nat.toDigits_ne_nil]
      exact ih (n / 10) (by omega) fewer

private theorem padded_eq (width n : Nat) :
    AreDigits (FloatNotation.padded width n) ∧ natOfDigits (FloatNotation.padded width n) = n := by
  obtain ⟨some, digits⟩ := areDigits_decimalDigits n
  unfold FloatNotation.padded
  refine ⟨⟨by simp [some], ?_⟩, by rw [natOfDigits_zeros_append, natOfDigits_decimalDigits]⟩
  intro d m
  rcases List.mem_append.mp m with m | m
  · exact isDigit_replicate_zero _ d m
  · exact digits d m

end Digits

section Numbers

variable {ws fs rest : List Char} {d : Decimal}

theorem number?_of_parts (dialect : JsonDialect) (negative : Bool) {cs point tail : List Char}
    {e : Option Int} (whole : whole? cs = some (ws, point))
    (fraction : fraction? point = some (fs, tail)) (exponent : exponent? tail = some (e, rest))
    (real : fs = [] → e ≠ none) (short : ws.length ≤ integerDigitLimit) :
    number? dialect negative cs =
      some (.scalar (.real
        ((Decimal.mk (natOfDigits (ws ++ fs)) (e.getD 0 - fs.length)).round negative)), rest) := by
  have fits : ¬ integerDigitLimit < ws.length := not_lt.mpr short
  simpa [number?, whole, fraction, exponent, fits] using real

theorem number?_decimalDigits (dialect : JsonDialect) (negative : Bool) {n : Nat}
    (short : (decimalDigits n).length ≤ integerDigitLimit) (ends : EndsNumber rest) :
    number? dialect negative (decimalDigits n ++ rest) =
      some (.scalar (.integer (if negative then -n else n)), rest) := by
  have proper : decimalDigits n = ['0'] ∨ (decimalDigits n).head? ≠ some '0' := by
    by_cases none : n = 0
    · rw [none]
      exact .inl rfl
    · exact .inr (head?_decimalDigits none)
  have whole := whole?_append rest (areDigits_decimalDigits n) proper fun c m => (ends c m).1
  have fraction := fraction?_of_head fun c m => (ends c m).2.1
  have exponent := exponent?_of_head fun c m => (ends c m).2.2
  have fits : ¬ integerDigitLimit < (decimalDigits n).length := not_lt.mpr short
  simp [number?, whole, fraction, exponent, fits]

private theorem number?_of_small (dialect : JsonDialect) (negative : Bool) (small : d.point ≤ 0)
    (ends : EndsNumber rest) :
    number? dialect negative
        ('0' :: '.' :: (List.replicate (-d.point).toNat '0' ++ decimalDigits d.digits) ++ rest) =
      some (.scalar (.real (d.round negative)), rest) := by
  obtain ⟨nonempty, digits⟩ := areDigits_decimalDigits d.digits
  have all : AreDigits (List.replicate (-d.point).toNat '0' ++ decimalDigits d.digits) := by
    refine ⟨by simp [nonempty], fun c m => ?_⟩
    exact (List.mem_append.mp m).elim (isDigit_replicate_zero _ c) (digits c)
  have whole : whole? ('0' :: '.' :: (List.replicate (-d.point).toNat '0' ++
      decimalDigits d.digits) ++ rest) = some (['0'], '.' :: (List.replicate (-d.point).toNat '0' ++
      decimalDigits d.digits ++ rest)) := rfl
  have read := number?_of_parts dialect negative whole
    (fraction?_append rest all fun c m => (ends c m).1)
    (exponent?_of_head fun c m => (ends c m).2.2) (fun none => absurd none all.1) (by decide)
  have same : natOfDigits (['0'] ++ (List.replicate (-d.point).toNat '0' ++
      decimalDigits d.digits)) = d.digits :=
    (natOfDigits_zeros_append 1 _).trans
      ((natOfDigits_zeros_append _ _).trans (natOfDigits_decimalDigits _))
  have shift : (Option.none.getD 0 : Int) - (List.replicate (-d.point).toNat '0' ++
      decimalDigits d.digits).length = d.exponent := by
    unfold Decimal.point at small ⊢
    simp only [Option.getD_none, List.length_append, List.length_replicate]
    omega
  rw [read, same, shift]

private theorem number?_of_large (dialect : JsonDialect) (negative : Bool) (nonzero : d.digits ≠ 0)
    (large : ((decimalDigits d.digits).length : Int) ≤ d.point)
    (short : d.point ≤ integerDigitLimit) (ends : EndsNumber rest) :
    number? dialect negative (decimalDigits d.digits ++
        List.replicate (d.point.toNat - (decimalDigits d.digits).length) '0' ++
          '.' :: '0' :: rest) =
      some (.scalar (.real (d.round negative)), rest) := by
  obtain ⟨nonempty, digits⟩ := areDigits_decimalDigits d.digits
  obtain ⟨zeros, count⟩ : ∃ zeros, zeros = d.point.toNat - (decimalDigits d.digits).length :=
    ⟨_, rfl⟩
  rw [← count]
  have all : AreDigits (decimalDigits d.digits ++ List.replicate zeros '0') := by
    refine ⟨by simp [nonempty], fun c m => ?_⟩
    exact (List.mem_append.mp m).elim (digits c) (isDigit_replicate_zero _ c)
  have first : (decimalDigits d.digits ++ List.replicate zeros '0').head? ≠ some '0' := by
    rw [List.head?_append_of_ne_nil _ nonempty]
    exact head?_decimalDigits nonzero
  have length : (decimalDigits d.digits ++ List.replicate zeros '0').length ≤
      integerDigitLimit := by
    rw [List.length_append, List.length_replicate]
    omega
  have single : AreDigits ['0'] := ⟨List.cons_ne_nil _ _, isDigit_replicate_zero 1⟩
  have read := number?_of_parts dialect negative
    (whole?_append ('.' :: '0' :: rest) all (.inr first) (by simp))
    (fraction?_append rest single fun c m => (ends c m).1)
    (exponent?_of_head fun c m => (ends c m).2.2) (fun none => absurd none single.1) length
  have value : (Decimal.mk (natOfDigits (decimalDigits d.digits ++ List.replicate zeros '0' ++
      ['0'])) (Option.none.getD 0 - (['0'] : List Char).length)).value = d.value := by
    have written : decimalDigits d.digits ++ List.replicate zeros '0' ++ ['0'] =
        decimalDigits d.digits ++ List.replicate (zeros + 1) '0' := by
      rw [List.append_assoc, ← List.replicate_succ']
    have shift : d.exponent = zeros := by
      unfold Decimal.point at count large
      omega
    have ten : (10 : ℚ) ^ zeros * 10 * 10 ^ (-1 : Int) = 10 ^ zeros := by
      rw [zpow_neg_one, mul_assoc, mul_inv_cancel₀ (by norm_num), mul_one]
    unfold Decimal.value
    rw [written, natOfDigits_append_zeros, natOfDigits_decimalDigits, shift, zpow_natCast,
      Nat.cast_mul, Nat.cast_pow, pow_succ, mul_assoc]
    exact congrArg _ ten
  rw [read, Decimal.round_congr negative value]

private theorem number?_of_split (dialect : JsonDialect) (negative : Bool) (nonzero : d.digits ≠ 0)
    (above : 0 < d.point) (below : d.point < (decimalDigits d.digits).length)
    (short : d.point ≤ integerDigitLimit) (ends : EndsNumber rest) :
    number? dialect negative ((decimalDigits d.digits).take d.point.toNat ++
        '.' :: ((decimalDigits d.digits).drop d.point.toNat ++ rest)) =
      some (.scalar (.real (d.round negative)), rest) := by
  obtain ⟨nonempty, digits⟩ := areDigits_decimalDigits d.digits
  obtain ⟨k, place⟩ := Int.eq_ofNat_of_zero_le above.le
  rw [place] at above below short ⊢
  rw [Int.toNat_natCast]
  have front : AreDigits ((decimalDigits d.digits).take k) := by
    refine ⟨?_, fun c m => digits c (List.mem_of_mem_take m)⟩
    simp only [ne_eq, List.take_eq_nil_iff, nonempty, or_false]
    omega
  have back : AreDigits ((decimalDigits d.digits).drop k) := by
    refine ⟨?_, fun c m => digits c (List.mem_of_mem_drop m)⟩
    rw [ne_eq, List.drop_eq_nil_iff]
    omega
  have first : ((decimalDigits d.digits).take k).head? ≠ some '0' := by
    rw [List.head?_take, if_neg (by omega)]
    exact head?_decimalDigits nonzero
  have length : ((decimalDigits d.digits).take k).length ≤ integerDigitLimit := by
    rw [List.length_take]
    omega
  have read := number?_of_parts dialect negative
    (whole?_append ('.' :: ((decimalDigits d.digits).drop k ++ rest)) front (.inr first)
      (by simp))
    (fraction?_append rest back fun c m => (ends c m).1)
    (exponent?_of_head fun c m => (ends c m).2.2) (fun none => absurd none back.1) length
  have shift : (Option.none.getD 0 : Int) - ((decimalDigits d.digits).drop k).length =
      d.exponent := by
    unfold Decimal.point at place
    rw [Option.getD_none, List.length_drop]
    omega
  rw [read, List.take_append_drop, natOfDigits_decimalDigits, shift]

private theorem number?_of_exponent (dialect : JsonDialect) (negative : Bool)
    (nonzero : d.digits ≠ 0)
    (style : FloatNotation) (ends : EndsNumber rest) {first : Char} {others : List Char}
    (digits : decimalDigits d.digits = first :: others) :
    number? dialect negative (first :: ((if others.isEmpty then [] else '.' :: others) ++
        'e' :: (if d.point - 1 < 0 then '-' else '+') ::
          (FloatNotation.padded style.exponentWidth (d.point - 1).natAbs ++ rest))) =
      some (.scalar (.real (d.round negative)), rest) := by
  have all := areDigits_decimalDigits d.digits
  have positive := head?_decimalDigits nonzero
  have counted := natOfDigits_decimalDigits d.digits
  rw [digits] at all positive counted
  have single : AreDigits [first] :=
    ⟨List.cons_ne_nil _ _, fun c m => all.2 c (List.mem_cons.mpr (.inl (List.mem_singleton.mp m)))⟩
  obtain ⟨exponent, written⟩ := padded_eq style.exponentWidth (d.point - 1).natAbs
  have last := exponent?_append rest (d.point - 1) exponent written
    fun c m => (ends c m).1
  have shift : (some (d.point - 1)).getD 0 - (others.length : Int) = d.exponent := by
    unfold Decimal.point
    rw [digits, Option.getD_some, List.length_cons]
    omega
  cases others with
  | nil =>
    have read := number?_of_parts dialect negative
      (whole?_append ('e' :: (if d.point - 1 < 0 then '-' else '+') ::
        (FloatNotation.padded style.exponentWidth (d.point - 1).natAbs ++ rest)) single
        (.inr positive) (by simp))
      (fraction?_of_head (by simp)) last (fun _ => Option.some_ne_none _)
      (by decide : 1 ≤ integerDigitLimit)
    rw [shift, List.append_nil, counted] at read
    exact read
  | cons second others =>
    have fraction : AreDigits (second :: others) :=
      ⟨List.cons_ne_nil _ _, fun c m => all.2 c (List.mem_cons_of_mem _ m)⟩
    have read := number?_of_parts dialect negative
      (whole?_append ('.' :: ((second :: others) ++
        'e' :: (if d.point - 1 < 0 then '-' else '+') ::
          (FloatNotation.padded style.exponentWidth (d.point - 1).natAbs ++ rest))) single
        (.inr positive) (by simp))
      (fraction?_append _ fraction (by simp)) last (fun _ => Option.some_ne_none _)
      (by decide : 1 ≤ integerDigitLimit)
    have together : natOfDigits ([first] ++ second :: others) = d.digits := counted
    rw [shift, together] at read
    exact read

/-- A decimal is read back from the text that a notation gives it. -/
theorem number?_layout (dialect : JsonDialect) (negative : Bool) {style : FloatNotation}
    (short : style.positionalBelow ≤ integerDigitLimit) (nonzero : d.digits ≠ 0)
    (ends : EndsNumber rest) :
    number? dialect negative (style.layout d ++ rest) =
      some (.scalar (.real (d.round negative)), rest) := by
  have points : ((decimalDigits d.digits).length : Int) + d.exponent = d.point := rfl
  unfold FloatNotation.layout
  simp only [points]
  split
  case isTrue positional =>
    have limited : d.point ≤ integerDigitLimit := by omega
    split
    case isTrue small => exact number?_of_small dialect negative small ends
    case isFalse above =>
      split
      case isTrue large =>
        have read := number?_of_large dialect negative nonzero (by omega) limited ends
        simpa only [List.append_assoc, List.cons_append, List.nil_append] using read
      case isFalse below =>
        have read := number?_of_split dialect negative nonzero (by omega) (by omega) limited ends
        simpa only [List.append_assoc, List.cons_append] using read
  case isFalse =>
    obtain ⟨first, others, digits⟩ :=
      List.exists_cons_of_ne_nil (areDigits_decimalDigits d.digits).1
    have read := number?_of_exponent dialect negative nonzero style ends digits
    rw [digits]
    cases others with
    | nil => exact read
    | cons second others =>
      simpa only [List.append_assoc, List.cons_append, List.nil_append, List.isEmpty_cons,
        Bool.false_eq_true, if_false] using read

end Numbers

end Json

end Tracing
