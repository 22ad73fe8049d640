import Mathlib.Data.Int.Log
import Mathlib.Tactic
import Tracing.Number.Binary64
/-!
Rounding looks at a ratio and not at the two numbers that write it, and it leaves alone what a
binary number can hold.
-/

set_option autoImplicit false
set_option relaxedAutoImplicit false

namespace Tracing

namespace Binary64

section Ratios

variable {num den num' den' : Nat}

theorem scaled_ne_zero (num : Nat) (pos : den ≠ 0) (e : Int) : (scaled num den e).2 ≠ 0 := by
  unfold scaled
  split
  · rw [Nat.shiftLeft_eq]
    exact Nat.mul_ne_zero pos (NeZero.ne _)
  · exact pos

theorem ratio_scaled (num den : Nat) (e : Int) :
    ((scaled num den e).1 : ℚ) / (scaled num den e).2 = num / den / (2 : ℚ) ^ e := by
  unfold scaled
  split
  case isTrue up =>
    obtain ⟨k, rfl⟩ := Int.eq_ofNat_of_zero_le up
    rw [Int.toNat_natCast, Nat.shiftLeft_eq, zpow_natCast]
    push_cast
    rw [div_div]
  case isFalse down =>
    obtain ⟨k, rfl⟩ : ∃ k : Nat, e = -(k : Int) := ⟨(-e).toNat, by omega⟩
    rw [neg_neg, Int.toNat_natCast, Nat.shiftLeft_eq, zpow_neg, zpow_natCast]
    push_cast
    rw [div_inv_eq_mul, div_mul_eq_mul_div]

private theorem two_zpow_log2 {n : Nat} (some : n ≠ 0) :
    (2 : ℚ) ^ (n.log2 : Int) ≤ n ∧ (n : ℚ) < (2 : ℚ) ^ ((n.log2 : Int) + 1) := by
  constructor
  · exact_mod_cast Nat.log2_self_le some
  · exact_mod_cast Nat.lt_log2_self

private theorem ratio_within (some : num ≠ 0) (pos : den ≠ 0) :
    (2 : ℚ) ^ ((num.log2 : Int) - den.log2 - 1) ≤ num / den ∧
      (num : ℚ) / den < (2 : ℚ) ^ ((num.log2 : Int) - den.log2 + 1) := by
  obtain ⟨numLeast, numMost⟩ := two_zpow_log2 some
  obtain ⟨denLeast, denMost⟩ := two_zpow_log2 pos
  have positive : (0 : ℚ) < den := by positivity
  constructor
  · rw [le_div_iff₀ positive]
    calc (2 : ℚ) ^ ((num.log2 : Int) - den.log2 - 1) * den
        ≤ 2 ^ ((num.log2 : Int) - den.log2 - 1) * 2 ^ ((den.log2 : Int) + 1) := by gcongr
      _ = 2 ^ (num.log2 : Int) := by
        rw [← zpow_add₀ two_ne_zero]
        congr 1
        ring
      _ ≤ num := numLeast
  · rw [div_lt_iff₀ positive]
    calc (num : ℚ) < 2 ^ ((num.log2 : Int) + 1) := numMost
      _ = 2 ^ ((num.log2 : Int) - den.log2 + 1) * 2 ^ (den.log2 : Int) := by
        rw [← zpow_add₀ two_ne_zero]
        congr 1
        ring
      _ ≤ 2 ^ ((num.log2 : Int) - den.log2 + 1) * den := by gcongr

theorem scale_eq_log (some : num ≠ 0) (pos : den ≠ 0) :
    scale num den = max (Int.log 2 ((num : ℚ) / den) - 52) (-1074) := by
  have positive : (0 : ℚ) < num / den := by positivity
  obtain ⟨below, above⟩ := ratio_within some pos
  have least : (num.log2 : Int) - den.log2 - 1 ≤ Int.log 2 ((num : ℚ) / den) :=
    (Int.zpow_le_iff_le_log Nat.one_lt_two positive).mp below
  have most : Int.log 2 ((num : ℚ) / den) < (num.log2 : Int) - den.log2 + 1 :=
    (Int.lt_zpow_iff_log_lt Nat.one_lt_two positive).mp above
  have full : 2 * leastFull ≤ (scaled num den ((num.log2 : Int) - den.log2 - 53)).1 /
        (scaled num den ((num.log2 : Int) - den.log2 - 53)).2 ↔
      (num.log2 : Int) - den.log2 ≤ Int.log 2 ((num : ℚ) / den) := by
    have divisor := Nat.pos_of_ne_zero
      (scaled_ne_zero num pos ((num.log2 : Int) - den.log2 - 53))
    have ratio := ratio_scaled num den ((num.log2 : Int) - den.log2 - 53)
    rw [Nat.le_div_iff_mul_le divisor, ← Int.zpow_le_iff_le_log Nat.one_lt_two positive,
      ← Nat.cast_le (α := ℚ), Nat.cast_mul, ← le_div_iff₀ (by exact_mod_cast divisor), ratio,
      le_div_iff₀ (by positivity)]
    have shifted : ((2 * leastFull : Nat) : ℚ) * 2 ^ ((num.log2 : Int) - den.log2 - 53) =
        ((2 : Nat) : ℚ) ^ ((num.log2 : Int) - den.log2) := by
      have size : ((2 * leastFull : Nat) : ℚ) = 2 ^ (53 : Int) := by norm_num
      rw [size, ← zpow_add₀ two_ne_zero]
      congr 1
      ring
    rw [shifted]
  unfold scale
  dsimp only
  split
  case isTrue high =>
    have exactly := full.mp high
    congr 1
    omega
  case isFalse low =>
    have short := mt full.mpr low
    congr 1
    omega

private theorem roundQuotient_mul (num den : Nat) {k : Nat} (some : k ≠ 0) :
    roundQuotient (num * k) (den * k) = roundQuotient num den := by
  have positive := Nat.pos_of_ne_zero some
  have above : den * k < 2 * (num % den * k) ↔ den < 2 * (num % den) := by
    rw [← Nat.mul_assoc, Nat.mul_lt_mul_right positive]
  have half : 2 * (num % den * k) = den * k ↔ 2 * (num % den) = den := by
    rw [← Nat.mul_assoc, Nat.mul_left_inj some]
  unfold roundQuotient
  simp only [Nat.mul_div_mul_right _ _ positive, Nat.mul_mod_mul_right, above, half]

private theorem roundQuotient_congr (pos : den ≠ 0) (pos' : den' ≠ 0)
    (same : num * den' = num' * den) :
    roundQuotient num den = roundQuotient num' den' := by
  rw [← roundQuotient_mul num den pos', ← roundQuotient_mul num' den' pos, same, Nat.mul_comm den]

private theorem roundQuotient_mul_self (m : Nat) {k : Nat} (some : k ≠ 0) :
    roundQuotient (m * k) k = m := by
  have single := roundQuotient_mul m 1 some
  rw [Nat.one_mul] at single
  rw [single]
  simp [roundQuotient, Nat.mod_one]

private theorem cross_of_ratio (pos : den ≠ 0) (pos' : den' ≠ 0)
    (same : (num : ℚ) / den = num' / den') : num * den' = num' * den := by
  rw [div_eq_div_iff (by exact_mod_cast pos) (by exact_mod_cast pos')] at same
  exact_mod_cast same

theorem ofRatio_congr (negative : Bool) (pos : den ≠ 0) (pos' : den' ≠ 0)
    (same : (num : ℚ) / den = num' / den') :
    ofRatio negative num den = ofRatio negative num' den' := by
  have cross := cross_of_ratio pos pos' same
  have zeros : num = 0 ↔ num' = 0 := by
    constructor
    · rintro rfl
      simpa [pos] using cross.symm
    · rintro rfl
      simpa [pos'] using cross
  by_cases none : num = 0
  · rw [none, zeros.mp none]
    rfl
  · have scales : scale num den = scale num' den' := by
      rw [scale_eq_log none pos, scale_eq_log (mt zeros.mpr none) pos', same]
    have quotients :
        roundQuotient (scaled num den (scale num den)).1 (scaled num den (scale num den)).2 =
          roundQuotient (scaled num' den' (scale num' den')).1
            (scaled num' den' (scale num' den')).2 := by
      refine roundQuotient_congr (scaled_ne_zero num pos _) (scaled_ne_zero num' pos' _) ?_
      refine cross_of_ratio (scaled_ne_zero num pos _) (scaled_ne_zero num' pos' _) ?_
      rw [ratio_scaled, ratio_scaled, same, scales]
    unfold ofRatio
    rw [if_neg none, if_neg (mt zeros.mpr none)]
    dsimp only
    rw [quotients, scales]

end Ratios

section Exactness

variable {m num den : Nat} {e : Int}

private theorem ne_zero_of_magnitude (some : m ≠ 0) (value : (num : ℚ) / den = m * (2 : ℚ) ^ e) :
    num ≠ 0 := by
  rintro rfl
  rw [Nat.cast_zero, zero_div] at value
  have positive : (0 : ℚ) < m * (2 : ℚ) ^ e := by positivity
  exact positive.ne value

private theorem scale_of_canonical (canonical : Canonical m e) (some : m ≠ 0) (pos : den ≠ 0)
    (value : (num : ℚ) / den = m * (2 : ℚ) ^ e) : scale num den = e := by
  have positive : (0 : ℚ) < m * (2 : ℚ) ^ e := by positivity
  obtain ⟨below, above⟩ := two_zpow_log2 some
  have least : (m.log2 : Int) + e ≤ Int.log 2 (m * (2 : ℚ) ^ e) := by
    refine (Int.zpow_le_iff_le_log Nat.one_lt_two positive).mp ?_
    rw [Nat.cast_ofNat, zpow_add₀ two_ne_zero]
    gcongr
  have most : Int.log 2 (m * (2 : ℚ) ^ e) < (m.log2 : Int) + 1 + e := by
    refine (Int.lt_zpow_iff_log_lt Nat.one_lt_two positive).mp ?_
    rw [Nat.cast_ofNat, zpow_add₀ two_ne_zero]
    gcongr
  obtain ⟨short, low, -, full⟩ := canonical
  have digits : m.log2 < 53 := (Nat.log2_lt some).mpr short
  rw [scale_eq_log (ne_zero_of_magnitude some value) pos, value]
  rcases full with long | bottom
  · have exactly : 52 ≤ m.log2 := (Nat.le_log2 some).mpr long
    omega
  · omega

/-- A magnitude that a binary number can hold rounds to that number. -/
theorem ofRatio_of_canonical (negative : Bool) (canonical : Canonical m e) (some : m ≠ 0)
    (pos : den ≠ 0) (value : (num : ℚ) / den = m * (2 : ℚ) ^ e) :
    ofRatio negative num den = finite negative m e canonical := by
  have scales := scale_of_canonical canonical some pos value
  have divisor := scaled_ne_zero num pos e
  have whole : (scaled num den e).1 = m * (scaled num den e).2 := by
    have ratio := ratio_scaled num den e
    rw [value, mul_div_cancel_right₀ _ (by positivity),
      div_eq_iff (by exact_mod_cast divisor)] at ratio
    exact_mod_cast ratio
  have short : m ≠ 2 * leastFull := canonical.1.ne
  unfold ofRatio
  rw [if_neg (ne_zero_of_magnitude some value), scales]
  dsimp only
  rw [whole, roundQuotient_mul_self m divisor, if_neg short, dif_pos canonical]

theorem ofRatio_negative (num den : Nat) : ofRatio true num den = (ofRatio false num den).neg := by
  unfold ofRatio
  split
  · rfl
  · dsimp only
    split
    · split <;> rfl
    · split <;> rfl

end Exactness

end Binary64

end Tracing
