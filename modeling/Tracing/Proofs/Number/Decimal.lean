import Tracing.Number.Decimal
import Tracing.Proofs.Number.Rounding
/-!
Decimals that are written for a binary number read back as that number. How a decimal is rounded
depends on its value alone, the exact decimal has the value of the number, and whatever the search
for fewer digits settles on has been read back before.
-/

set_option autoImplicit false
set_option relaxedAutoImplicit false

namespace Tracing

namespace Decimal

section Value

variable {d d' : Decimal} {n : Nat}

def value (d : Decimal) : ℚ := d.digits * (10 : ℚ) ^ d.exponent

/-- How many digits a decimal has before the point; none or fewer if it starts after the point. -/
def point (d : Decimal) : Int := (decimalDigits d.digits).length + d.exponent

def ratio (d : Decimal) : Nat × Nat :=
  if 0 ≤ d.exponent then (d.digits * Nat.pow 10 d.exponent.toNat, 1)
  else (d.digits, Nat.pow 10 (-d.exponent).toNat)

private theorem value_eq_zero_iff : d.value = 0 ↔ d.digits = 0 := by
  simp [value, zpow_ne_zero]

private theorem ratio_ne_zero (d : Decimal) : d.ratio.2 ≠ 0 := by
  unfold ratio
  split
  · exact one_ne_zero
  · exact (Nat.pow_pos (by decide)).ne'

private theorem value_eq_ratio (d : Decimal) : (d.ratio.1 : ℚ) / d.ratio.2 = d.value := by
  obtain ⟨n, e⟩ := d
  unfold ratio value
  dsimp only
  split
  case isTrue up =>
    obtain ⟨k, rfl⟩ := Int.eq_ofNat_of_zero_le up
    simp
  case isFalse down =>
    obtain ⟨k, rfl⟩ : ∃ k : Nat, e = -(k : Int) := ⟨(-e).toNat, by omega⟩
    simp [div_eq_mul_inv]

private theorem decimalDigits_pos (n : Nat) : 0 < (decimalDigits n).length :=
  Nat.length_toDigits_pos

private theorem digits_within (some : n ≠ 0) :
    10 ^ ((decimalDigits n).length - 1) ≤ n ∧ n < 10 ^ (decimalDigits n).length := by
  have counted : ∀ k, 0 < k → ((decimalDigits n).length ≤ k ↔ n < 10 ^ k) :=
    fun k pos => Nat.length_toDigits_le_iff (by decide) pos
  have pos := decimalDigits_pos n
  refine ⟨?_, (counted _ pos).mp (le_refl _)⟩
  rcases Nat.eq_zero_or_pos ((decimalDigits n).length - 1) with single | more
  · rw [single]
    exact Nat.pos_of_ne_zero some
  · by_contra less
    have short := (counted _ more).mpr (not_le.mp less)
    omega

private theorem point_eq_log (some : d.digits ≠ 0) : d.point = Int.log 10 d.value + 1 := by
  obtain ⟨least, most⟩ := digits_within some
  have pos := decimalDigits_pos d.digits
  have positive : 0 < d.value := by
    unfold value
    positivity
  have below : d.point - 1 ≤ Int.log 10 d.value := by
    refine (Int.zpow_le_iff_le_log (by decide) positive).mp ?_
    have split :
        d.point - 1 = (((decimalDigits d.digits).length - 1 : Nat) : Int) + d.exponent := by
      unfold point
      omega
    rw [Nat.cast_ofNat, split, zpow_add₀ (by norm_num), zpow_natCast]
    unfold value
    gcongr
    exact_mod_cast least
  have above : Int.log 10 d.value < d.point := by
    refine (Int.lt_zpow_iff_log_lt (by decide) positive).mp ?_
    unfold point value
    rw [Nat.cast_ofNat, zpow_add₀ (by norm_num), zpow_natCast]
    gcongr
    exact_mod_cast most
  omega

private theorem round_eq (negative : Bool) (d : Decimal) :
    d.round negative =
      if d.digits = 0 then .zero negative
      else if d.point < -330 then .zero negative
      else if 310 < d.point then .infinite negative
      else .ofRatio negative d.ratio.1 d.ratio.2 := by
  have points : ((decimalDigits d.digits).length : Int) + d.exponent = d.point := rfl
  unfold round ratio
  simp only [points]
  split_ifs <;> rfl

theorem round_congr (negative : Bool) (same : d.value = d'.value) :
    d.round negative = d'.round negative := by
  have zeros : d.digits = 0 ↔ d'.digits = 0 := by
    rw [← value_eq_zero_iff, ← value_eq_zero_iff, same]
  rw [round_eq, round_eq]
  by_cases none : d.digits = 0
  · rw [if_pos none, if_pos (zeros.mp none)]
  · have points : d.point = d'.point := by
      rw [point_eq_log none, point_eq_log (mt zeros.mpr none), same]
    have rounded := Binary64.ofRatio_congr negative d.ratio_ne_zero d'.ratio_ne_zero
      (d.value_eq_ratio.trans (same.trans d'.value_eq_ratio.symm))
    rw [if_neg none, if_neg (mt zeros.mpr none), points, rounded]

private theorem round_negative (d : Decimal) : d.round true = (d.round false).neg := by
  rw [round_eq, round_eq]
  split
  · rfl
  · split
    · rfl
    · split
      · rfl
      · exact Binary64.ofRatio_negative _ _

end Value

section Canonical

open Binary64 (Canonical)

variable {d : Decimal} {m : Nat} {e : Int}

/-- A decimal of a value that a binary number can hold is neither too small nor too large to be
looked at. -/
private theorem point_of_canonical (canonical : Canonical m e) (some : m ≠ 0)
    (value : d.value = m * (2 : ℚ) ^ e) : -330 ≤ d.point ∧ d.point ≤ 310 := by
  have positive : 0 < d.value := by
    rw [value]
    positivity
  have digits : d.digits ≠ 0 := mt value_eq_zero_iff.mpr positive.ne'
  obtain ⟨short, low, high, -⟩ := canonical
  have tiny : ((10 : Nat) : ℚ) ^ (-330 : Int) ≤ 2 ^ (-1074 : Int) := by
    have powers : 2 ^ 1074 ≤ 10 ^ 330 := by decide +kernel
    rw [zpow_neg, zpow_neg]
    refine inv_anti₀ (by positivity) ?_
    exact_mod_cast powers
  have huge : ((2 * Binary64.leastFull : Nat) : ℚ) * 2 ^ (971 : Int) ≤
      ((10 : Nat) : ℚ) ^ (309 : Int) := by
    have powers : 2 * Binary64.leastFull * 2 ^ 971 ≤ 10 ^ 309 := by decide +kernel
    exact_mod_cast powers
  have least : -330 ≤ Int.log 10 d.value := by
    refine (Int.zpow_le_iff_le_log (by decide) positive).mp ?_
    have one : (1 : ℚ) ≤ m := by exact_mod_cast Nat.pos_of_ne_zero some
    rw [value]
    calc ((10 : Nat) : ℚ) ^ (-330 : Int) ≤ 2 ^ (-1074 : Int) := tiny
      _ ≤ 2 ^ e := zpow_le_zpow_right₀ one_le_two low
      _ ≤ m * 2 ^ e := le_mul_of_one_le_left (by positivity) one
  have most : Int.log 10 d.value < 309 := by
    refine (Int.lt_zpow_iff_log_lt (by decide) positive).mp ?_
    rw [value]
    calc (m : ℚ) * 2 ^ e ≤ m * 2 ^ (971 : Int) := by
          gcongr
          exact one_le_two
      _ < ((2 * Binary64.leastFull : Nat) : ℚ) * 2 ^ (971 : Int) := by gcongr
      _ ≤ ((10 : Nat) : ℚ) ^ (309 : Int) := huge
  rw [point_eq_log digits]
  omega

private theorem round_of_canonical (negative : Bool) (canonical : Canonical m e) (some : m ≠ 0)
    (value : d.value = m * (2 : ℚ) ^ e) : d.round negative = .finite negative m e canonical := by
  obtain ⟨least, most⟩ := point_of_canonical canonical some value
  have digits : d.digits ≠ 0 := by
    rw [Ne, ← value_eq_zero_iff, value]
    positivity
  rw [round_eq, if_neg digits, if_neg (not_lt.mpr least), if_neg (not_lt.mpr most)]
  exact Binary64.ofRatio_of_canonical negative canonical some d.ratio_ne_zero
    (d.value_eq_ratio.trans value)

end Canonical

private theorem value_strip (fuel : Nat) (d : Decimal) : (strip fuel d).value = d.value := by
  induction fuel generalizing d with
  | zero => rfl
  | succ fuel ih =>
    unfold strip
    split
    case isTrue round =>
      have whole : (d.digits : ℚ) = (d.digits / 10 : Nat) * 10 := by
        exact_mod_cast (Nat.div_mul_cancel (Nat.dvd_of_mod_eq_zero round.2)).symm
      rw [ih]
      unfold value
      rw [whole, zpow_add_one₀ (by norm_num)]
      dsimp only
      ring
    case isFalse => rfl

end Decimal

namespace Binary64

variable {m : Nat} {e : Int}

private theorem value_exactDecimal (m : Nat) (e : Int) :
    (exactDecimal m e).value = m * (2 : ℚ) ^ e := by
  unfold exactDecimal Decimal.value
  split
  case isTrue up =>
    obtain ⟨k, rfl⟩ := Int.eq_ofNat_of_zero_le up
    simp [Nat.shiftLeft_eq]
  case isFalse down =>
    obtain ⟨k, rfl⟩ : ∃ k : Nat, e = -(k : Int) := ⟨(-e).toNat, by omega⟩
    have ten : (10 : ℚ) ^ k = 5 ^ k * 2 ^ k := by
      rw [← mul_pow]
      norm_num
    simp only [neg_neg, Int.toNat_natCast, Nat.pow_eq, Nat.cast_mul, Nat.cast_pow, Nat.cast_ofNat,
      zpow_neg, zpow_natCast, ten]
    field_simp

private theorem round_of_readsBack {x : Binary64} {d found : Decimal} {drop : Nat}
    (h : readsBack x d drop = some found) : found.round false = x := by
  unfold readsBack at h
  dsimp only at h
  split at h
  case h_1 lower upper =>
    split at h
    · cases h
      exact of_decide_eq_true lower
    · cases h
      exact of_decide_eq_true upper
  case h_2 lower _ =>
    cases h
    exact of_decide_eq_true lower
  case h_3 _ upper =>
    cases h
    exact of_decide_eq_true upper
  case h_4 => cases h

private theorem round_searchShortest {x : Binary64} {d : Decimal} (reads : d.round false = x)
    (drop : Nat) : (searchShortest x d drop).round false = x := by
  induction drop with
  | zero => exact reads
  | succ drop ih =>
    unfold searchShortest
    split
    case h_1 found there => exact round_of_readsBack there
    case h_2 => exact ih

theorem round_shortest (negative sign : Bool) (canonical : Canonical m e) (some : m ≠ 0) :
    (shortest (finite sign m e canonical)).round negative = finite negative m e canonical := by
  have exactly := Decimal.round_of_canonical false canonical some (value_exactDecimal m e)
  have searched := round_searchShortest exactly
    ((decimalDigits (exactDecimal m e).digits).length - 1)
  have stripped : (shortest (finite sign m e canonical)).round false =
      finite false m e canonical :=
    (Decimal.round_congr false (Decimal.value_strip _ _)).trans searched
  cases negative with
  | false => exact stripped
  | true =>
    rw [Decimal.round_negative, stripped]
    rfl

theorem digits_shortest_ne_zero (sign : Bool) (canonical : Canonical m e) (some : m ≠ 0) :
    (shortest (finite sign m e canonical)).digits ≠ 0 := by
  intro none
  have reads := round_shortest false sign canonical some
  rw [Decimal.round_eq, if_pos none] at reads
  injection reads with _ significand
  exact some significand.symm

end Binary64

end Tracing
