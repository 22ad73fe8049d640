import Mathlib.Tactic
import Tracing.Json.Token
import Tracing.Json.Writer
/-!
Texts between quotes. Whichever characters a style escapes, and whether it writes the far ones as
pairs of halves, what stands between the quotes is read as the characters of the text.
-/

set_option autoImplicit false
set_option relaxedAutoImplicit false

namespace Tracing

open Json

namespace JsonStyle

/-- The units that a character is read as: two halves, if it is escaped and takes them. -/
def units (style : JsonStyle) (c : Char) : List Nat :=
  if style.asciiOnly && 0xFFFF < c.toNat then
    [0xD800 + (c.toNat - 0x10000) / 0x400, 0xDC00 + (c.toNat - 0x10000) % 0x400]
  else [c.toNat]

section Escapes

variable {style : JsonStyle} {n : Nat}

theorem hexValue?_digitChar : ∀ k < 16, hexValue? (Nat.digitChar k) = some k := by decide

private theorem unitEscape_eq (small : n < 0x10000) :
    unitEscape n = ['\\', 'u', Nat.digitChar (n / 4096), Nat.digitChar (n / 256 % 16),
      Nat.digitChar (n / 16 % 16), Nat.digitChar (n % 16)] := by
  have digits : ∀ k, Nat.toDigits 16 k =
      if k < 16 then [Nat.digitChar k] else Nat.toDigits 16 (k / 16) ++ [Nat.digitChar (k % 16)] :=
    fun k => Nat.toDigits_eq_if (by decide)
  have zero : ∀ k, k = 0 → Nat.digitChar k = '0' := by
    rintro k rfl
    rfl
  have second : n / 16 / 16 = n / 256 := Nat.div_div_eq_div_mul n 16 16
  have third : n / 256 / 16 = n / 4096 := Nat.div_div_eq_div_mul n 256 16
  unfold unitEscape
  rw [digits n]
  split
  case isTrue single =>
    rw [zero (n / 4096) (by omega), zero (n / 256 % 16) (by omega), zero (n / 16 % 16) (by omega),
      Nat.mod_eq_of_lt single]
    rfl
  case isFalse =>
    rw [digits (n / 16)]
    split
    case isTrue double =>
      rw [zero (n / 4096) (by omega), zero (n / 256 % 16) (by omega), Nat.mod_eq_of_lt double]
      rfl
    case isFalse =>
      rw [second, digits (n / 256)]
      split
      case isTrue triple =>
        rw [zero (n / 4096) (by omega), Nat.mod_eq_of_lt triple]
        rfl
      case isFalse =>
        rw [third, digits (n / 4096), if_pos (by omega)]
        rfl

private theorem unit?_unitEscape (small : n < 0x10000) :
    unit? (Nat.digitChar (n / 4096)) (Nat.digitChar (n / 256 % 16)) (Nat.digitChar (n / 16 % 16))
      (Nat.digitChar (n % 16)) = some n := by
  unfold unit?
  rw [hexValue?_digitChar _ (by omega), hexValue?_digitChar _ (by omega),
    hexValue?_digitChar _ (by omega), hexValue?_digitChar _ (by omega)]
  show some _ = some n
  congr 1
  omega

private theorem quotedBody_unitEscape (small : n < 0x10000) (rest : List Char) :
    quotedBody (unitEscape n ++ rest) =
      (quotedBody rest).map fun (us, after) => (n :: us, after) := by
  rw [unitEscape_eq small]
  simp only [List.cons_append, List.nil_append, quotedBody, unit?_unitEscape small]

private theorem units_of_near {c : Char} (near : c.toNat ≤ 0xFFFF) : style.units c = [c.toNat] := by
  unfold units
  rw [decide_eq_false (not_lt.mpr near), Bool.and_false]
  rfl

private theorem quotedBody_plain {c : Char} (shown : ¬ c.toNat < 0x20) (other : c ≠ '"' ∧ c ≠ '\\')
    (rest : List Char) :
    quotedBody (c :: rest) = (quotedBody rest).map fun (us, after) => (c.toNat :: us, after) := by
  rw [quotedBody.eq_5 c rest other.1 (fun _ _ _ _ _ same => absurd same other.2)
    (fun _ _ same => absurd same other.2)]
  simp [shown, other.2]

private theorem quotedBody_escape (style : JsonStyle) (c : Char) (rest : List Char) :
    quotedBody (style.escape c ++ rest) =
      (quotedBody rest).map fun (us, after) => (style.units c ++ us, after) := by
  unfold escape
  split
  case h_8 quote backslash _ _ _ _ _ =>
    dsimp only
    split
    case isTrue control =>
      rw [quotedBody_unitEscape (by omega), units_of_near (by omega)]
      rfl
    case isFalse shown =>
      split
      case isTrue escaped =>
        obtain ⟨ascii, -⟩ := Bool.and_eq_true_iff.mp escaped
        split
        case isTrue near =>
          rw [quotedBody_unitEscape near, units_of_near (by omega)]
          rfl
        case isFalse far =>
          have valid : c.toNat < 0x110000 := by
            rcases c.valid with low | high
            · exact low.trans (by decide)
            · exact high.2
          have pair : style.units c =
              [0xD800 + (c.toNat - 0x10000) / 0x400, 0xDC00 + (c.toNat - 0x10000) % 0x400] := by
            unfold units
            rw [ascii, decide_eq_true (by omega)]
            rfl
          rw [pair, List.append_assoc, quotedBody_unitEscape (by omega),
            quotedBody_unitEscape (by omega), Option.map_map]
          rfl
      case isFalse plain =>
        have whole : style.units c = [c.toNat] := by
          unfold units
          rw [if_neg]
          intro far
          refine plain (Bool.and_eq_true_iff.mpr ?_)
          obtain ⟨ascii, above⟩ := Bool.and_eq_true_iff.mp far
          exact ⟨ascii,
            decide_eq_true ((by decide : 0x7E < 0xFFFF).trans (of_decide_eq_true above))⟩
        rw [whole, List.singleton_append, quotedBody_plain shown ⟨quote, backslash⟩]
        rfl
  all_goals
    rw [units_of_near (by decide)]
    rfl

theorem quotedBody_escapes (style : JsonStyle) (cs rest : List Char) :
    quotedBody (cs.flatMap style.escape ++ '"' :: rest) = some (cs.flatMap style.units, rest) := by
  induction cs with
  | nil => rfl
  | cons c cs ih =>
    rw [List.flatMap_cons, List.append_assoc, quotedBody_escape, ih]
    rfl

end Escapes

section Pairs

private theorem joinPairs_of_single {u : Nat} (first : isLeading u = false)
    (second : isTrailing u = false)
    (rest : List Nat) : joinPairs (u :: rest) = some (Char.ofNat u) :: joinPairs rest := by
  cases rest with
  | nil => simp [joinPairs, first, second]
  | cons v rest => simp [joinPairs, first, second]

private theorem joinPairs_units (style : JsonStyle) (cs : List Char) :
    joinPairs (cs.flatMap style.units) = cs.map some := by
  induction cs with
  | nil => rfl
  | cons c cs ih =>
    have valid : c.toNat < 0xD800 ∨ 0xDFFF < c.toNat ∧ c.toNat < 0x110000 := c.valid
    rw [List.flatMap_cons, List.map_cons, ← ih]
    unfold units
    split
    case isTrue far =>
      have above : 0xFFFF < c.toNat := of_decide_eq_true (Bool.and_eq_true_iff.mp far).2
      have pair : 0x10000 + (0xD800 + (c.toNat - 0x10000) / 0x400 - 0xD800) * 0x400 +
          (0xDC00 + (c.toNat - 0x10000) % 0x400 - 0xDC00) = c.toNat := by omega
      have halves : (isLeading (0xD800 + (c.toNat - 0x10000) / 0x400) &&
          isTrailing (0xDC00 + (c.toNat - 0x10000) % 0x400)) = true := by
        simp only [isLeading, isTrailing, Bool.and_eq_true, decide_eq_true_eq]
        omega
      rw [List.cons_append, List.singleton_append, joinPairs, if_pos halves, pair,
        Char.ofNat_toNat]
    case isFalse =>
      have first : isLeading c.toNat = false := by
        simp only [isLeading, Bool.and_eq_false_iff, decide_eq_false_iff_not]
        omega
      have second : isTrailing c.toNat = false := by
        simp only [isTrailing, Bool.and_eq_false_iff, decide_eq_false_iff_not]
        omega
      rw [List.singleton_append, joinPairs_of_single first second, Char.ofNat_toNat]

theorem quoted?_units (dialect : JsonDialect) (style : JsonStyle) (s : String) :
    quoted? dialect (s.toList.flatMap style.units) = some (.text s) := by
  have all : (s.toList.map some).mapM id = some s.toList := by
    induction s.toList with
    | nil => rfl
    | cons c cs ih => simp [ih]
  unfold quoted?
  rw [joinPairs_units, all]
  simp

end Pairs

end JsonStyle

end Tracing
