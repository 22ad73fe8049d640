import Tracing.Proofs.Number.Exactness
import Tracing.Proofs.Sampling.Validity
/-!
How many of the identifiers of 64 bits a share samples. Positive identifiers are sampled up to the
whole part of the share of half the identifiers, negative ones down to it, and zero by a share that
is more than nothing; so what the two boundaries cut off adds up to less than one identifier.
-/

set_option autoImplicit false
set_option relaxedAutoImplicit false

namespace Tracing

namespace Rate

/-- The identifiers of 64 bits that a share samples. -/
def covered (r : Rate) : Finset Nat := {id ∈ Finset.range (2 ^ 64) | r.covers id = true}

/-- The greatest signed number of 64 bits. The nearest binary number is one more. -/
def greatestSigned : Binary64 := .ofInt 0x7FFFFFFFFFFFFFFF

private theorem greatestSigned_eq :
    greatestSigned = .finite false Binary64.leastFull 11 (by decide) := by
  decide +kernel

def share (r : Rate) : ℚ := r.value.value?.getD 0

section Boundary

variable (r : Rate)

private theorem exists_finite : ∃ s m e canonical, r.value = .finite s m e canonical ∧
    Binary64.exact s m e = r.share ∧ r.share = m * (2 : ℚ) ^ e := by
  obtain ⟨x, inRange⟩ := r
  obtain ⟨above, below⟩ := Bool.and_eq_true_iff.mp inRange
  cases x with
  | nan => cases above
  | infinite s =>
    cases s with
    | false => cases below
    | true => cases above
  | finite s m e canonical =>
    obtain ⟨a, place, least⟩ := Binary64.isLimit_iff.mp above
    cases place
    have nonneg : 0 ≤ Binary64.exact s m e := by simpa [Extended.blt] using least
    refine ⟨s, m, e, canonical, rfl, rfl, ?_⟩
    rw [← Binary64.abs_exact s, abs_of_nonneg nonneg]
    rfl

theorem extended?_value : r.value.extended? = some (.value r.share) := by
  obtain ⟨s, m, e, canonical, finite, value, -⟩ := r.exists_finite
  rw [finite, ← value]
  rfl

theorem share_nonneg : 0 ≤ r.share := by
  obtain ⟨s, m, e, canonical, -, -, magnitude⟩ := r.exists_finite
  rw [magnitude]
  positivity

theorem share_le_one : r.share ≤ 1 := by
  obtain ⟨above, below⟩ := Bool.and_eq_true_iff.mp r.inRange
  unfold Binary64.le Binary64.lt Binary64.eq at below
  rw [extended?_value, Binary64.extended?_one] at below
  simpa [Extended.blt, le_iff_lt_or_eq] using below

theorem isPositive_iff : r.isPositive = true ↔ 0 < r.share := by
  unfold isPositive Binary64.lt
  rw [extended?_value, Binary64.extended?_zero]
  exact decide_eq_true_iff

private theorem exponent_nonpos {m : Nat} {e : Int} (canonical : Binary64.Canonical m e)
    (most : (m : ℚ) * (2 : ℚ) ^ e ≤ 1) : e ≤ 0 := by
  by_contra up
  obtain ⟨-, -, -, full | least⟩ := canonical
  · have long : (1 : ℚ) ≤ m := by
      have positive : 1 ≤ m := le_trans (by decide) full
      exact_mod_cast positive
    have two : (2 : ℚ) ≤ m * (2 : ℚ) ^ e := by
      calc (2 : ℚ) = (2 : ℚ) ^ (1 : Int) := (zpow_one 2).symm
        _ ≤ (2 : ℚ) ^ e := zpow_le_zpow_right₀ one_le_two (by omega)
        _ ≤ m * (2 : ℚ) ^ e := le_mul_of_one_le_left (by positivity) long
    linarith
  · omega

private theorem floor_shift (m : Nat) (k : Int) :
    ⌊(m : ℚ) * (2 : ℚ) ^ k⌋ =
      ((if 0 ≤ k then m <<< k.toNat else m >>> (-k).toNat : Nat) : Int) := by
  split
  case isTrue up =>
    obtain ⟨n, rfl⟩ := Int.eq_ofNat_of_zero_le up
    have whole : (m : ℚ) * (2 : ℚ) ^ (n : Int) = ((m * 2 ^ n : Nat) : Int) := by
      rw [zpow_natCast]
      push_cast
      rfl
    rw [whole, Int.floor_intCast, Int.toNat_natCast, Nat.shiftLeft_eq]
  case isFalse down =>
    obtain ⟨n, rfl⟩ : ∃ n : Nat, k = -(n : Int) := ⟨(-k).toNat, by omega⟩
    have ratio : (m : ℚ) * (2 : ℚ) ^ (-(n : Int)) = (m : ℚ) / ((2 ^ n : Nat) : ℚ) := by
      rw [zpow_neg, zpow_natCast, ← div_eq_mul_inv]
      push_cast
      rfl
    rw [ratio, Rat.floor_natCast_div_natCast, neg_neg, Int.toNat_natCast,
      Nat.shiftRight_eq_div_pow, Int.natCast_div]

variable {r} in
private theorem half_eq {m : Nat} {e : Int} (magnitude : r.share = m * (2 : ℚ) ^ e) :
    r.share * 2 ^ 63 = m * (2 : ℚ) ^ (e + 63) := by
  rw [magnitude, zpow_add₀ two_ne_zero, mul_assoc]
  norm_num

/-- The boundary is the whole part of the share of half the identifiers. -/
theorem floor_share : ⌊r.share * 2 ^ 63⌋ = (r.boundary : Int) := by
  obtain ⟨s, m, e, canonical, finite, -, magnitude⟩ := r.exists_finite
  rw [half_eq magnitude, floor_shift]
  unfold boundary
  rw [finite]

private theorem value?_product : (greatestSigned * r.value).value? = some (r.share * 2 ^ 63) := by
  obtain ⟨s, m, e, canonical, finite, value, magnitude⟩ := r.exists_finite
  have low := exponent_nonpos canonical (magnitude ▸ r.share_le_one)
  have half : |2 ^ 63 * r.share| = (m : ℚ) * (2 : ℚ) ^ (e + 63) := by
    rw [abs_of_nonneg (mul_nonneg (by positivity) r.share_nonneg), mul_comm, half_eq magnitude]
  have top : Binary64.exact false Binary64.leastFull 11 = 2 ^ 63 := by
    rw [Binary64.exact_eq]
    norm_num
  rw [mul_comm r.share, greatestSigned_eq, finite]
  show (Binary64.ofRat (Binary64.exact false Binary64.leastFull 11 * Binary64.exact s m e)
    (false != s)).value? = _
  rw [top, value]
  obtain ⟨short, least, -, -⟩ := canonical
  exact Binary64.value?_ofRat _ short (by omega) (by omega) half

end Boundary

section Counting

variable (r : Rate)

private theorem boundary_within :
    (r.boundary : ℚ) ≤ r.share * 2 ^ 63 ∧ r.share * 2 ^ 63 < r.boundary + 1 := by
  have whole := Int.floor_le (r.share * 2 ^ 63)
  have rest := Int.lt_floor_add_one (r.share * 2 ^ 63)
  rw [floor_share, Int.cast_natCast] at whole rest
  exact ⟨whole, rest⟩

private theorem boundary_le : r.boundary ≤ 2 ^ 63 := by
  have most := r.share_le_one
  have bounded : (r.boundary : ℚ) ≤ ((2 ^ 63 : Nat) : ℚ) := by
    push_cast
    linarith [r.boundary_within.1]
  exact_mod_cast bounded

/-- Which identifiers of 64 bits are sampled: zero, the least ones of the lower half and the
greatest ones of the upper half. -/
private theorem covers_iff {id : Nat} (short : id < 2 ^ 64) : r.covers id = true ↔
    id = 0 ∧ 0 < r.share ∨ (0 < id ∧ id < 2 ^ 63 ∧ id ≤ r.boundary) ∨
      2 ^ 63 ≤ id ∧ 2 ^ 64 ≤ id + r.boundary := by
  have low : Identifier.lowBits id = id := by
    unfold Identifier.lowBits
    omega
  unfold covers Identifier.signed
  rw [low, ← isPositive_iff]
  by_cases lower : id < 0x8000000000000000
  · rw [if_pos lower]
    by_cases zero : id = 0
    · simp [zero]
    · have positive : (0 : Int) < id := by omega
      simp only [positive, if_true, decide_eq_true_eq]
      omega
  · rw [if_neg lower]
    have negative : (id : Int) - 0x10000000000000000 < 0 := by omega
    simp only [negative, if_true, not_lt.mpr negative.le, if_false, decide_eq_true_eq]
    omega

def zeros : Finset Nat := if 0 < r.share then {0} else ∅

private theorem mem_zeros {id : Nat} : id ∈ r.zeros ↔ id = 0 ∧ 0 < r.share := by
  unfold zeros
  split
  case isTrue some => simp [some]
  case isFalse none => simp [none]

private theorem covered_eq : r.covered =
    r.zeros ∪ Finset.Ioc 0 (min r.boundary (2 ^ 63 - 1)) ∪
      Finset.Ico (2 ^ 64 - r.boundary) (2 ^ 64) := by
  have most := r.boundary_le
  ext id
  simp only [covered, Finset.mem_filter, Finset.mem_range, Finset.mem_union, Finset.mem_Ioc,
    Finset.mem_Ico, mem_zeros]
  constructor
  · rintro ⟨short, sampled⟩
    rcases (r.covers_iff short).mp sampled with single | low | high
    · exact .inl (.inl single)
    · exact .inl (.inr (by omega))
    · exact .inr (by omega)
  · have fits (short : id < 2 ^ 64) (pieces : id = 0 ∧ 0 < r.share ∨
        (0 < id ∧ id < 2 ^ 63 ∧ id ≤ r.boundary) ∨ 2 ^ 63 ≤ id ∧ 2 ^ 64 ≤ id + r.boundary) :
        id < 2 ^ 64 ∧ r.covers id = true :=
      ⟨short, (r.covers_iff short).mpr pieces⟩
    rintro ((single | low) | high)
    · exact fits (by omega) (.inl single)
    · exact fits (by omega) (.inr (.inl (by omega)))
    · exact fits (by omega) (.inr (.inr (by omega)))

private theorem card_pieces :
    r.covered.card = r.zeros.card + min r.boundary (2 ^ 63 - 1) + r.boundary := by
  have most := r.boundary_le
  have above : 2 ^ 64 - (2 ^ 64 - r.boundary) = r.boundary := by omega
  rw [covered_eq, Finset.card_union_of_disjoint, Finset.card_union_of_disjoint, Nat.card_Ioc,
    Nat.card_Ico, above, Nat.sub_zero]
  · rw [Finset.disjoint_left]
    intro id single low
    rw [mem_zeros] at single
    rw [Finset.mem_Ioc] at low
    omega
  · rw [Finset.disjoint_left]
    intro id others high
    rw [Finset.mem_union, mem_zeros, Finset.mem_Ioc] at others
    rw [Finset.mem_Ico] at high
    omega

variable {r}

private theorem card_of_nothing (none : r.share = 0) : r.covered.card = 0 := by
  have low : r.boundary = 0 := by
    have small : (r.boundary : ℚ) ≤ 0 := by simpa [none] using r.boundary_within.1
    exact_mod_cast le_antisymm small (Nat.cast_nonneg _)
  rw [card_pieces, low, zeros, if_neg (by simp [none])]
  rfl

private theorem card_of_all (all : r.share = 1) : r.covered.card = 2 ^ 64 := by
  have high : 2 ^ 63 < r.boundary + 1 := by
    have large : ((2 ^ 63 : Nat) : ℚ) < ((r.boundary + 1 : Nat) : ℚ) := by
      push_cast
      linarith [r.boundary_within.2]
    exact_mod_cast large
  have most := r.boundary_le
  rw [card_pieces, zeros, if_pos (by simp [all]), Finset.card_singleton]
  omega

private theorem card_of_part (some : 0 < r.share) (part : r.share < 1) :
    r.covered.card = 2 * r.boundary + 1 := by
  have low : r.boundary < 2 ^ 63 := by
    have small : (r.boundary : ℚ) < ((2 ^ 63 : Nat) : ℚ) := by
      push_cast
      linarith [r.boundary_within.1]
    exact_mod_cast small
  rw [card_pieces, zeros, if_pos some, Finset.card_singleton]
  omega

variable (r)

/-- A share samples as many of the identifiers of 64 bits as it says, give or take one; a share of
nothing samples none, and a share of all samples all. The boundary is the whole part of a product in
which nothing is rounded. -/
theorem card_covered : r.value.value? = some r.share ∧
    (greatestSigned * r.value).value? = some (r.share * 2 ^ 63) ∧
    ⌊r.share * 2 ^ 63⌋ = (r.boundary : Int) ∧
    |(r.covered.card : ℚ) - r.share * 2 ^ 64| ≤ 1 ∧
    (r.share = 0 → r.covered.card = 0) ∧ (r.share = 1 → r.covered.card = 2 ^ 64) := by
  have value : r.value.value? = some r.share := by
    obtain ⟨s, m, e, canonical, finite, value, -⟩ := r.exists_finite
    rw [finite, ← value]
    rfl
  refine ⟨value, r.value?_product, r.floor_share, ?_, card_of_nothing, card_of_all⟩
  rcases r.share_nonneg.eq_or_lt with none | some
  · simp [card_of_nothing none.symm, ← none]
  · rcases r.share_le_one.eq_or_lt with all | part
    · norm_num [card_of_all all, all]
    · obtain ⟨whole, rest⟩ := r.boundary_within
      rw [card_of_part some part, abs_le]
      push_cast
      constructor
      · linarith
      · linarith

end Counting

end Rate

end Tracing
