import Tracing.Text.CaseTable
import Tracing.Text.Mark
/-!
Texts in capitals and in small letters. A capital may be written with several letters, and one
letter, the sigma, has two small forms: the second one where a word ends.
-/

set_option autoImplicit false
set_option relaxedAutoImplicit false

namespace Tracing.Text

/-- The letter at the distance that a table of runs says, itself where no run holds it. -/
def shifted (runs : Array CaseRun) (c : Char) : Char :=
  match runs.find? fun r => r.contains c.toNat with
  | some r => Char.ofNat (c.toNat + r.distance).toNat
  | none => c

def upperChar (c : Char) : List Char :=
  match capitalExpansions.find? fun (n, _) => n == c.toNat with
  | some (_, letters) => letters.map Char.ofNat
  | none => [shifted capitalRuns c]

/-- The small form of a character that stands alone. The capital i with a dot keeps its dot. -/
def lowerChar (c : Char) : List Char :=
  if c = '\u0130' then ['i', '\u0307'] else [shifted smallRuns c]

def isInsideWords (c : Char) : Bool := isNonspacing c.toNat || wordMarks.contains c.toNat

def meetsLetter (cs : List Char) : Bool :=
  (cs.dropWhile isInsideWords).head?.any fun c => casedLetters.contains c.toNat

/-- A text in small letters; `before` is what stands in front of it, latest first. -/
def lowerAfter (before : List Char) : List Char → List Char
  | [] => []
  | c :: rest =>
    let small :=
      if c = '\u03A3' && meetsLetter before && !meetsLetter rest then ['\u03C2'] else lowerChar c
    small ++ lowerAfter (c :: before) rest

def lower (s : String) : String := String.ofList (lowerAfter [] s.toList)

def upper (s : String) : String := String.ofList (s.toList.flatMap upperChar)

def lowerAscii (s : String) : String := s.map Char.toLower

end Tracing.Text
