/-!
Binary floating-point numbers of 64 bits as exact data: a finite number is a sign, a significand
and a power of two. Rounding is defined once, on a ratio of naturals, to the nearest number with
ties to the even significand; each arithmetic operation is exact arithmetic followed by it.
-/

set_option autoImplicit false
set_option relaxedAutoImplicit false

namespace Tracing

namespace Binary64

abbrev leastFull : Nat := 0x10000000000000

/-- Each finite magnitude `m * 2 ^ e` has exactly one pair of this form. -/
def Canonical (m : Nat) (e : Int) : Prop :=
  m < 2 * leastFull ∧ -1074 ≤ e ∧ e ≤ 971 ∧ (leastFull ≤ m ∨ e = -1074)

instance canonicalDecidable (m : Nat) (e : Int) : Decidable (Canonical m e) :=
  inferInstanceAs (Decidable (_ ∧ _))

end Binary64

/-- A binary floating-point number of 64 bits; both zeros are finite with significand zero. -/
inductive Binary64 where
  | nan
  | infinite (negative : Bool)
  | finite (negative : Bool) (significand : Nat) (exponent : Int)
      (canonical : Binary64.Canonical significand exponent)
  deriving DecidableEq

namespace Binary64

def zero (negative : Bool) : Binary64 := finite negative 0 (-1074) (by decide)

def one : Binary64 := finite false leastFull (-52) (by decide)

instance : Inhabited Binary64 := ⟨zero false⟩

/-- The natural number nearest to `num / den`, the even one of two equally near. -/
def roundQuotient (num den : Nat) : Nat :=
  let q := num / den
  let r := num % den
  if den < 2 * r ∨ (2 * r = den ∧ q % 2 = 1) then q + 1 else q

/-- The ratio `num / den` as a pair whose quotient is `num / den / 2 ^ e`. -/
def scaled (num den : Nat) (e : Int) : Nat × Nat :=
  if 0 ≤ e then (num, den <<< e.toNat) else (num <<< (-e).toNat, den)

/-- The exponent at which `num / den` has 53 binary digits before the point, or the least one. -/
def scale (num den : Nat) : Int :=
  let low : Int := (num.log2 : Int) - (den.log2 : Int) - 53
  let (n, d) := scaled num den low
  max (if 2 * leastFull ≤ n / d then low + 1 else low) (-1074)

/-- The number nearest to `num / den`, ties to even, infinite beyond the largest finite one. -/
def ofRatio (negative : Bool) (num den : Nat) : Binary64 :=
  if num = 0 then zero negative else
  let e := scale num den
  let (n, d) := scaled num den e
  let m := roundQuotient n d
  if m = 2 * leastFull then
    if h : Canonical leastFull (e + 1) then finite negative leastFull (e + 1) h
    else infinite negative
  else
    if h : Canonical m e then finite negative m e h else infinite negative

/-- The number nearest to a rational, with the given sign where the rational is zero. -/
def ofRat (q : Rat) (negativeZero : Bool) : Binary64 :=
  if q.num = 0 then zero negativeZero else ofRatio (q.num < 0) q.num.natAbs q.den

def ofNat (n : Nat) : Binary64 := ofRatio false n 1

/-- The number nearest to an integer, infinite where no finite one is near. -/
def ofInt (n : Int) : Binary64 := ofRatio (n < 0) n.natAbs 1

def isNaN : Binary64 → Bool
  | nan => true
  | _ => false

def isFinite : Binary64 → Bool
  | finite .. => true
  | _ => false

/-- The number nearest to an integer, where that is finite. -/
def ofInt? (n : Int) : Option Binary64 :=
  let x := ofInt n
  if x.isFinite then some x else none

def exact (negative : Bool) (m : Nat) (e : Int) : Rat :=
  if m = 0 then 0 else
  let n : Int := if negative then -(m : Int) else m
  if 0 ≤ e then ((n * (1 <<< e.toNat : Nat) : Int) : Rat) else mkRat n (1 <<< (-e).toNat)

def value? : Binary64 → Option Rat
  | finite s m e _ => some (exact s m e)
  | _ => none

def neg : Binary64 → Binary64
  | nan => nan
  | infinite s => infinite (!s)
  | finite s m e h => finite (!s) m e h

/-- The exact sum, rounded; opposite infinities have none. -/
def add : Binary64 → Binary64 → Binary64
  | nan, _ => nan
  | _, nan => nan
  | infinite s, infinite t => if s = t then infinite s else nan
  | infinite s, finite .. => infinite s
  | finite .., infinite t => infinite t
  | finite s m e _, finite t n f _ => ofRat (exact s m e + exact t n f) (s && t)

def sub (x y : Binary64) : Binary64 := add x (neg y)

/-- The exact product, rounded; zero times infinity has none. -/
def mul : Binary64 → Binary64 → Binary64
  | nan, _ => nan
  | _, nan => nan
  | infinite s, infinite t => infinite (s != t)
  | infinite s, finite t n _ _ => if n = 0 then nan else infinite (s != t)
  | finite s m _ _, infinite t => if m = 0 then nan else infinite (s != t)
  | finite s m e _, finite t n f _ => ofRat (exact s m e * exact t n f) (s != t)

/-- The exact quotient by a positive natural number, rounded. -/
def divNat (x : Binary64) (d : Nat) : Binary64 :=
  match x with
  | finite s m e _ => ofRat (exact s m e / d) s
  | _ => x

instance : Add Binary64 := ⟨add⟩
instance : Sub Binary64 := ⟨sub⟩
instance : Mul Binary64 := ⟨mul⟩
instance : Neg Binary64 := ⟨neg⟩

end Binary64

end Tracing
