import Tracing.Http.NameLabel
import Tracing.Text.LetterCase
import Tracing.Text.Percent
/-!
The host of a URL: four numbers, a bracketed address of eight groups, or a name. A name is written
in small letters, outside ASCII in its ASCII-compatible form.
-/

set_option autoImplicit false
set_option relaxedAutoImplicit false

namespace Tracing.Http

def splitAt (separator : Char) : List Char → List (List Char)
  | [] => [[]]
  | c :: rest =>
    match splitAt separator rest with
    | [] => [[]]
    | part :: parts => if c = separator then [] :: part :: parts else (c :: part) :: parts

/-- Whether a host is four runs of digits with dots between them. -/
def isDottedStyle (host : List Char) : Bool :=
  let parts := splitAt '.' host
  parts.length == 4 && parts.all fun ds => !ds.isEmpty && ds.all Char.isDigit

/-- Whether a text is a number below 256 without leading zeros. -/
def isOctet (ds : List Char) : Bool :=
  !ds.isEmpty && ds.all Char.isDigit && ds.length ≤ 3 &&
    (ds.length == 1 || ds.head? != some '0') && Json.natOfDigits ds ≤ 255

def isDottedAddress (host : List Char) : Bool :=
  let parts := splitAt '.' host
  parts.length == 4 && parts.all isOctet

def isGroup (ds : List Char) : Bool :=
  !ds.isEmpty && ds.length ≤ 4 && ds.all fun c => (Json.hexValue? c).isSome

/-- Whether a list of groups, one empty group standing for left out zeros, is an address. -/
def isGroupList (parts : List (List Char)) : Bool :=
  let inner := (parts.drop 1).dropLast
  match inner.findIdx? List.isEmpty with
  | none => parts.length == 8 && parts.all isGroup
  | some i =>
    let skip := i + 1
    let high := parts.take skip
    let low := parts.drop (skip + 1)
    let high := if high = [[]] then [] else high
    let low := if low = [[]] then [] else low
    (high.all isGroup && low.all isGroup) && high.length + low.length ≤ 7

/-- Whether a text is an address of eight groups, perhaps with a zone after a percent sign. -/
def isGroupAddress (text : List Char) : Bool :=
  let address := text.takeWhile (· ≠ '%')
  let zone := (text.dropWhile (· ≠ '%')).drop 1
  let zoneValid := !text.contains '%' || (!zone.isEmpty && !zone.contains '%')
  let parts := splitAt ':' address
  if !zoneValid || text.contains '/' || parts.length < 3 then false else
  match parts.getLast? with
  | some last =>
    if last.contains '.' then
      isDottedAddress last && isGroupList (parts.dropLast ++ [['0'], ['0']])
    else isGroupList parts
  | none => false

def isDot (c : Char) : Bool :=
  c = '.' || c.toNat = 0x3002 || c.toNat = 0xFF0E || c.toNat = 0xFF61

def longestName : Nat := 253

def internationalName? (host : List Char) : Option (List Char) := do
  if longestName + 1 < host.length then none
  let labels := splitAt '.' (host.map fun c => if isDot c then '.' else c)
  let (body, trailing) :=
    if labels.getLast? == some [] then (labels.dropLast, ['.']) else (labels, [])
  let written ← body.mapM writtenLabel?
  let name := (written.intersperse ['.']).flatten ++ trailing
  if longestName + trailing.length < name.length then none else some name

/-- What is wrong with a name whose first label is in ASCII form. Other names are not looked at. -/
def nameFault? (host : List Char) : Option NameFault :=
  if host.take 4 ≠ asciiMark then none
  else if longestName + 1 < host.length then some .malformed
  else
    let labels := splitAt '.' host
    let labels := if labels.getLast? == some [] then labels.dropLast else labels
    labels.findSome? asciiLabelFault?

/-- The marks besides letters and digits that stay as they are in an ASCII name. -/
def isNameMark (c : Char) : Bool := "!$&'()*+,;=\"`\x7b\x7d%|\\".toList.contains c

/-- The written form of a host, none where it is no host. -/
def hostName? (host : List Char) : Option (List Char) :=
  if host.isEmpty then some []
  else if isDottedStyle host then if isDottedAddress host then some host else none
  else if host.head? = some '[' ∧ host.getLast? = some ']' then
    let inner := (host.drop 1).dropLast
    if isGroupAddress inner then some inner else none
  else if host.all fun c => c.toNat < 0x80 then
    some (Text.percentEncode isNameMark (host.map Char.toLower))
  else internationalName? (Text.lowerAfter [] host)

end Tracing.Http
