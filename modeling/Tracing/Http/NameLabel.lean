import Tracing.Http.NameCharacter
import Tracing.Http.NameFault
import Tracing.Http.Punycode
import Tracing.Text.Composition
import Tracing.Text.Direction
import Tracing.Text.Joining
import Tracing.Text.Script
/-!
Labels of host names: the parts between dots. A label has letters, digits and hyphens of any
script, in composed form, in an order that reads the same everywhere; some signs have to stand
beside certain letters. What is not ASCII is sent in its ASCII form behind a mark.
-/

set_option autoImplicit false
set_option relaxedAutoImplicit false

namespace Tracing.Http

open Text

def isArabicDigit (n : Nat) : Bool := 0x660 ≤ n && n ≤ 0x669

/-- The digits of Persian and Urdu. -/
def isExtendedDigit (n : Nat) : Bool := 0x6F0 ≤ n && n ≤ 0x6F9

/-- Whether a sign may stand between what is in front of it, latest first, and what follows. -/
def signFits (before : List Nat) (n : Nat) (after : List Nat) : Bool :=
  let silenced := before.head?.any fun c => combiningClass c == viramaClass
  if n = 0x200C then silenced || wouldJoin before after
  else if n = 0x200D then silenced
  else if n = 0xB7 then before.head? == some 0x6C && after.head? == some 0x6C
  else if n = 0x375 then after.head?.any greekLetters.contains
  else if n = 0x5F3 ∨ n = 0x5F4 then before.head?.any hebrewLetters.contains
  else if n = 0x30FB then (before ++ after).any eastAsianLetters.contains
  else if isArabicDigit n then !(before ++ after).any isExtendedDigit
  else if isExtendedDigit n then !(before ++ after).any isArabicDigit
  else false

/-- Signs that show or hide the joining of their neighbours. -/
def isJoiner (n : Nat) : Bool := n = 0x200C || n = 0x200D

def isBoundSign (n : Nat) : Bool :=
  n = 0xB7 || n = 0x375 || n = 0x5F3 || n = 0x5F4 || n = 0x30FB || isArabicDigit n ||
    isExtendedDigit n

/-- What is wrong with the first character that may not stand where it does. -/
def characterFault? (before : List Nat) : List Nat → Option NameFault
  | [] => none
  | n :: rest =>
    if isNameCharacter n || signFits before n rest then characterFault? (n :: before) rest
    else if isJoiner n then some .malformed
    else if isBoundSign n then some .misplacedSign
    else some .foreignCharacter

def longestLabel : Nat := 254

/-- Whether code points have the shape of a label: no hyphen at either end nor a pair of them at the
third place, and no mark in front. -/
def isShaped (label : List Nat) : Bool :=
  let hyphen := 0x2D
  !label.isEmpty && label.length ≤ longestLabel && label.head? != some hyphen &&
    label.getLast? != some hyphen && !((label.drop 2).take 2 == [hyphen, hyphen]) &&
    !label.head?.any isMark && isComposed label

/-- What is wrong with a label. Its shape is looked at first, then its characters one by one, and
their directions last. -/
def labelFault? (label : List Nat) : Option NameFault :=
  if !isShaped label then some .malformed else
  match characterFault? [] label with
  | some fault => some fault
  | none => if Direction.areOrdered (label.map direction) then none else some .mixedDirections

def asciiMark : List Char := ['x', 'n', '-', '-']

def longestWritten : Nat := 63

def asciiLabelFault? (label : List Char) : Option NameFault :=
  if label.take 4 = asciiMark then
    let form := label.drop 4
    if form.isEmpty || form.getLast? == some '-' then some .malformed else
    match Punycode.decode? form with
    | some decoded => labelFault? decoded
    | none => some .malformed
  else labelFault? (label.map Char.toNat)

def isEitherLabel (label : List Char) : Bool :=
  if label.all fun c => c.toNat < 0x80 then (asciiLabelFault? label).isNone
  else (labelFault? (label.map Char.toNat)).isNone

def asciiForm (label : List Char) : List Char :=
  if label.all fun c => c.toNat < 0x80 then label
  else asciiMark ++ Punycode.encode (label.map Char.toNat)

def writtenLabel? (label : List Char) : Option (List Char) :=
  if isEitherLabel label && (asciiForm label).length ≤ longestWritten then some (asciiForm label)
  else none

end Tracing.Http
