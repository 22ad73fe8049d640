import Tracing.Proofs.Number.Rounding
/-!
Where arithmetic on binary numbers is exact, and where it stays finite. A significand that is short
enough, at any exponent in range, has a canonical form, and a rational of such a form is rounded to
itself; a ratio is rounded to a finite number unless it is near the end of the range.
-/

set_option autoImplicit false
set_option relaxedAutoImplicit false

namespace Tracing

namespace Binary64

variable {m : Nat} {e : Int}

theorem exact_eq (negative : Bool) (m : Nat) (e : Int) :
    exact negative m e = (if negative then -(m : ℚ) else m) * (2 : ℚ) ^ e := by
  unfold exact
  by_cases none : m = 0
  · simp [none]
  rw [if_neg none]
  dsimp only
  split
  case isTrue up =>
    obtain ⟨k, rfl⟩ := Int.eq_ofNat_of_zero_le up
    rw [Int.toNat_natCast, Nat.shiftLeft_eq, zpow_natCast]
    cases negative <;> simp
  case isFalse down =>
    obtain ⟨k, rfl⟩ : ∃ k : Nat, e = -(k : Int) := ⟨(-e).toNat, by omega⟩
    rw [neg_neg, Int.toNat_natCast, Nat.shiftLeft_eq, Rat.mkRat_eq_div, zpow_neg, zpow_natCast,
      ← div_eq_mul_inv]
    cases negative <;> simp

theorem abs_exact (negative : Bool) (m : Nat) (e : Int) :
    |exact negative m e| = m * (2 : ℚ) ^ e := by
  have positive : (0 : ℚ) < (2 : ℚ) ^ e := zpow_pos two_pos e
  rw [exact_eq, abs_mul, abs_of_pos positive]
  cases negative <;> simp

private theorem exists_canonical (short : m < 2 * leastFull) (some : m ≠ 0) (low : -1074 ≤ e)
    (high : e ≤ 971) :
    ∃ n f, Canonical n f ∧ n ≠ 0 ∧ (n : ℚ) * (2 : ℚ) ^ f = m * (2 : ℚ) ^ e := by
  have digits : m.log2 < 53 := (Nat.log2_lt some).mpr short
  let k := min (52 - m.log2) (e + 1074).toNat
  have long : 2 ^ m.log2 * 2 ^ k ≤ m * 2 ^ k :=
    Nat.mul_le_mul_right _ (Nat.log2_self_le some)
  have bounded : m * 2 ^ k < 2 * leastFull := by
    calc m * 2 ^ k < 2 ^ (m.log2 + 1) * 2 ^ k :=
          Nat.mul_lt_mul_of_pos_right Nat.lt_log2_self (by positivity)
      _ = 2 ^ (m.log2 + 1 + k) := (pow_add 2 _ _).symm
      _ ≤ 2 ^ 53 := Nat.pow_le_pow_right two_pos (by omega)
      _ = 2 * leastFull := rfl
  refine ⟨m * 2 ^ k, e - k, ⟨bounded, by omega, by omega, ?_⟩, by positivity, ?_⟩
  · rcases le_total (52 - m.log2) (e + 1074).toNat with room | bottom
    · left
      have full : m.log2 + k = 52 := by omega
      calc leastFull = 2 ^ (m.log2 + k) := by rw [full]; rfl
        _ = 2 ^ m.log2 * 2 ^ k := pow_add 2 _ _
        _ ≤ m * 2 ^ k := long
    · right
      omega
  · rw [zpow_sub₀ two_ne_zero, zpow_natCast]
    push_cast
    field_simp

/-- A rational with a short significand and an exponent in range is rounded to itself. -/
theorem value?_ofRat {q : ℚ} (negativeZero : Bool) (short : m < 2 * leastFull)
    (low : -1074 ≤ e) (high : e ≤ 971) (magnitude : |q| = m * (2 : ℚ) ^ e) :
    (ofRat q negativeZero).value? = some q := by
  by_cases none : q = 0
  · rw [none]
    rfl
  have numerator : q.num ≠ 0 := mt Rat.num_eq_zero.mp none
  have significand : m ≠ 0 := by
    rintro rfl
    rw [Nat.cast_zero, zero_mul, abs_eq_zero] at magnitude
    exact none magnitude
  obtain ⟨n, f, canonical, there, same⟩ := exists_canonical short significand low high
  have ratio : (q.num.natAbs : ℚ) / q.den = n * (2 : ℚ) ^ f := by
    rw [same, ← magnitude, Nat.cast_natAbs, Int.cast_abs]
    conv_rhs => rw [← Rat.num_div_den q]
    rw [abs_div, Nat.abs_cast]
  have rounded := ofRatio_of_canonical (decide (q.num < 0)) canonical there q.den_nz ratio
  unfold ofRat
  rw [if_neg numerator, rounded]
  show some (exact _ n f) = some q
  rw [exact_eq, Option.some_inj]
  by_cases negative : q.num < 0
  · have below : q < 0 := Rat.num_neg.mp negative
    rw [if_pos (decide_eq_true negative), neg_mul, same, ← magnitude, abs_of_neg below, neg_neg]
  · have above : 0 ≤ q := Rat.num_nonneg.mp (not_lt.mp negative)
    rw [decide_eq_false negative, if_neg Bool.false_ne_true, same, ← magnitude, abs_of_nonneg above]

private theorem le_roundQuotient (num den : Nat) :
    num / den ≤ roundQuotient num den ∧ roundQuotient num den ≤ num / den + 1 := by
  unfold roundQuotient
  dsimp only
  split <;> omega

private theorem scaled_quotient {num den : Nat} (some : num ≠ 0) (pos : den ≠ 0) :
    (scaled num den (scale num den)).1 / (scaled num den (scale num den)).2 < 2 * leastFull ∧
      (scale num den = -1074 ∨
        leastFull ≤ (scaled num den (scale num den)).1 / (scaled num den (scale num den)).2) := by
  have positive : (0 : ℚ) < num / den := by positivity
  have logarithm := scale_eq_log some pos
  have ratio := ratio_scaled num den (scale num den)
  have divisor := Nat.pos_of_ne_zero (scaled_ne_zero num pos (scale num den))
  have denominator : (0 : ℚ) < (scaled num den (scale num den)).2 := by exact_mod_cast divisor
  constructor
  · have most : (num : ℚ) / den < 2 ^ (53 + scale num den) := by
      refine (Int.lt_zpow_iff_log_lt Nat.one_lt_two positive).mpr ?_
      omega
    rw [zpow_add₀ two_ne_zero, ← div_lt_iff₀ (by positivity), ← ratio,
      div_lt_iff₀ denominator] at most
    rw [Nat.div_lt_iff_lt_mul divisor]
    exact_mod_cast most
  · refine or_iff_not_imp_left.mpr fun above => ?_
    have least : (2 : ℚ) ^ (52 + scale num den) ≤ num / den := by
      refine (Int.zpow_le_iff_le_log Nat.one_lt_two positive).mpr ?_
      omega
    rw [zpow_add₀ two_ne_zero, ← le_div_iff₀ (by positivity), ← ratio,
      le_div_iff₀ denominator] at least
    rw [Nat.le_div_iff_mul_le divisor]
    exact_mod_cast least

private theorem isFinite_ofRatio (negative : Bool) {num den : Nat} (pos : den ≠ 0)
    (small : (num : ℚ) / den < (2 : ℚ) ^ (1023 : Int)) :
    (ofRatio negative num den).isFinite = true := by
  by_cases none : num = 0
  · rw [none]
    rfl
  have positive : (0 : ℚ) < num / den := by positivity
  have logarithm := scale_eq_log none pos
  have digits : Int.log 2 ((num : ℚ) / den) < 1023 :=
    (Int.lt_zpow_iff_log_lt Nat.one_lt_two positive).mp small
  obtain ⟨short, full⟩ := scaled_quotient none pos
  obtain ⟨least, most⟩ := le_roundQuotient (scaled num den (scale num den)).1
    (scaled num den (scale num den)).2
  unfold ofRatio
  rw [if_neg none]
  dsimp only
  generalize roundQuotient _ _ = m at least most ⊢
  split
  · rw [dif_pos ⟨by decide, by omega, by omega, .inl (le_refl _)⟩]
    rfl
  · rw [dif_pos ⟨by omega, by omega, by omega, by omega⟩]
    rfl

theorem exists_ofInt? {n : Int} (small : n.natAbs < 2 ^ 1023) : ∃ x, ofInt? n = some x := by
  have finite : (ofInt n).isFinite = true := by
    refine isFinite_ofRatio _ one_ne_zero ?_
    rw [Nat.cast_one, div_one]
    exact_mod_cast small
  exact ⟨ofInt n, if_pos finite⟩

end Binary64

end Tracing
