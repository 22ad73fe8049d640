/-!
Punycode: a label as ASCII. Its ASCII characters come first; then, in ascending order, each other
character with the number of steps that lead to it and to its place. The numbers are written in a
base that varies with the place of a digit and adapts to the numbers before.
-/

set_option autoImplicit false
set_option relaxedAutoImplicit false

namespace Tracing.Http.Punycode

def digit (n : Nat) : Char := if n < 26 then Char.ofNat (0x61 + n) else Char.ofNat (0x16 + n)

/-- The value of a digit; letters count in any case. -/
def digitValue? (c : Char) : Option Nat :=
  if c.isDigit then some (c.toNat - 0x16)
  else if c.isAlpha then some (c.toLower.toNat - 0x61)
  else none

/-- The digit that ends a number at a place counted in steps of 36 lies below this. -/
def threshold (place bias : Nat) : Nat :=
  if place ≤ bias then 1 else if bias + 26 ≤ place then 26 else place - bias

private theorem threshold_pos (place bias : Nat) : 0 < threshold place bias := by
  unfold threshold
  split
  · exact Nat.one_pos
  · split <;> omega

def reduce (delta steps : Nat) : Nat × Nat :=
  if 455 < delta then reduce (delta / 35) (steps + 36) else (delta, steps)
termination_by delta
decreasing_by exact Nat.div_lt_self (by omega) (by omega)

def adapt (delta count : Nat) (first : Bool) : Nat :=
  let delta := if first then delta / 700 else delta / 2
  let (delta, steps) := reduce (delta + delta / count) 0
  steps + 36 * delta / (delta + 38)

def digits (bias place n : Nat) : List Char :=
  let t := threshold place bias
  if n < t then [digit n]
  else digit (t + (n - t) % (36 - t)) :: digits bias (place + 36) ((n - t) / (36 - t))
termination_by n
decreasing_by
  have pos := threshold_pos place bias
  have le := Nat.div_le_self (n - threshold place bias) (36 - threshold place bias)
  omega

/-- What the encoder knows between characters. -/
structure Encoding where
  delta : Nat
  bias : Nat
  handled : Nat
  first : Bool
  written : List Char

/-- Takes one character of the label while the code point `n` is inserted. -/
def Encoding.visit (n : Nat) (s : Encoding) (c : Nat) : Encoding :=
  if c < n then { s with delta := s.delta + 1 }
  else if c = n then
    { delta := 0
      bias := adapt s.delta (s.handled + 1) s.first
      handled := s.handled + 1
      first := false
      written := s.written ++ digits s.bias 36 s.delta }
  else s

/-- Inserts the code points of a label in ascending order. -/
def Encoding.insertAll (label : List Nat) : List Nat → Nat → Encoding → Encoding
  | [], _, s => s
  | n :: rest, low, s =>
    let s := { s with delta := s.delta + (n - low) * (s.handled + 1) }
    let s := label.foldl (Encoding.visit n) s
    insertAll label rest (n + 1) { s with delta := s.delta + 1 }

def firstOther : Nat := 0x80

def encode (label : List Nat) : List Char :=
  let basic := (label.filter (· < firstOther)).map Char.ofNat
  let others := (label.filter (firstOther ≤ ·)).mergeSort.eraseDups
  let written := if basic.isEmpty then [] else basic ++ ['-']
  (Encoding.insertAll label others firstOther ⟨0, 72, basic.length, true, written⟩).written

/-- The number at the front of some digits, and the digits behind it. -/
def number? (bias : Nat) : (place weight value : Nat) → List Char → Option (Nat × List Char)
  | _, _, _, [] => none
  | place, weight, value, c :: rest =>
    match digitValue? c with
    | none => none
    | some d =>
      let t := threshold place bias
      if d < t then some (value + d * weight, rest)
      else number? bias (place + 36) (weight * (36 - t)) (value + d * weight) rest

private theorem length_lt_of_number? {bias place weight value n : Nat} {cs rest : List Char}
    (h : number? bias place weight value cs = some (n, rest)) : rest.length < cs.length := by
  induction cs generalizing place weight value with
  | nil => simp [number?] at h
  | cons c cs ih =>
    unfold number? at h
    split at h
    · simp at h
    · dsimp only at h
      split at h
      · simp only [Option.some.injEq, Prod.mk.injEq] at h
        simp [← h.2]
      · have := ih h
        simp only [List.length_cons]
        omega

def greatest : Nat := 0x10FFFF

/-- Inserts the characters that digits describe into a label; `place` is where the next one stands
at the earliest, and `n` which one it is at least. -/
def insertDigits? (label : List Nat) (place n bias : Nat) (first : Bool) (cs : List Char) :
    Option (List Nat) :=
  if cs.isEmpty then some label else
  match h : number? bias 36 1 0 cs with
  | none => none
  | some (delta, rest) =>
    let count := label.length + 1
    let n := n + (place + delta) / count
    let place := (place + delta) % count
    if greatest < n then none
    else
      insertDigits? (label.take place ++ n :: label.drop place) (place + 1) n
        (adapt delta count first) false rest
termination_by cs.length
decreasing_by exact length_lt_of_number? h

/-- The label of code points that an ASCII form stands for. What is in front of the last hyphen is
ASCII as it is. -/
def decode? (cs : List Char) : Option (List Nat) :=
  let tail := (cs.reverse.takeWhile (· ≠ '-')).reverse
  let basic := (cs.take (cs.length - tail.length - 1)).map Char.toNat
  insertDigits? basic 0 firstOther 72 true tail

end Tracing.Http.Punycode
