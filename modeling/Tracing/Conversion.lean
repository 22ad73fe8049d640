import Tracing.Violation
import Tracing.Json.Token
import Tracing.Text.Blank
import Tracing.Text.LetterCase
import Tracing.Text.Utf8
/-!
Reading typed values from dynamic ones. Numbers may be written as texts, truth values count as
numbers, and so on; what cannot be read is a problem, and the problems of all members of an object
are collected.
-/

set_option autoImplicit false
set_option relaxedAutoImplicit false

namespace Tracing

/-- Whether values come from a document's text or from memory; the two word some problems
differently. -/
inductive Medium where
  | document
  | memory
  deriving DecidableEq

abbrev Checked (α : Type) := Except (List Violation) α

namespace Checked

def both {α β : Type} (a : Checked α) (b : Checked β) : Checked (α × β) :=
  match a, b with
  | .ok a, .ok b => .ok (a, b)
  | .ok _, .error f => .error f
  | .error e, .ok _ => .error e
  | .error e, .error f => .error (e ++ f)

def under {α : Type} (step : PathStep) (a : Checked α) : Checked α :=
  a.mapError fun vs => vs.map (·.under step)

def ofProblem {α : Type} (a : Except Problem α) : Checked α := a.mapError fun p => [⟨[], p⟩]

/-- All values of a list, or the violations of all, each under its place. -/
def items {α : Type} (read : Json → Checked α) : Nat → List Json → Checked (List α)
  | _, [] => .ok []
  | i, v :: rest =>
    ((read v).under (.item i)).both (items read (i + 1) rest) |>.map fun (a, as) => a :: as

end Checked

namespace Conversion

/-- Digits, a point and digits: at least one digit on either side. -/
def mantissa? (cs : List Char) : Option (Nat × Int × List Char) :=
  let (whole, rest) := Json.spanDigits cs
  let (part, rest) :=
    match rest with
    | '.' :: rest => Json.spanDigits rest
    | _ => ([], rest)
  if whole.isEmpty && part.isEmpty then none
  else some (Json.natOfDigits (whole ++ part), -(part.length : Int), rest)

/-- The number a text writes without blanks, a sign allowed in front. -/
def unblankedReal? (cs : List Char) : Option Binary64 := do
  let (negative, cs) :=
    match cs with
    | '-' :: rest => (true, rest)
    | '+' :: rest => (false, rest)
    | _ => (false, cs)
  let name := Text.lowerAscii (String.ofList cs)
  if name = "nan" then return .nan
  if name = "inf" || name = "infinity" then return .infinite negative
  let (digits, shift, rest) ← mantissa? cs
  let (exponent, rest) ← Json.exponent? rest
  if rest.isEmpty then return (Decimal.mk digits (exponent.getD 0 + shift)).round negative
  none

/-- Whether a text has single underscores, and only between other characters. -/
def hasInnerUnderscores (cs : List Char) : Bool :=
  cs.contains '_' && cs.head? != some '_' && cs.getLast? != some '_' &&
    !(cs.zip (cs.drop 1)).contains ('_', '_')

def realOfText? (s : String) : Option Binary64 :=
  let cs := s.toList
  match unblankedReal? (Text.trimList Text.isSpace cs) with
  | some x => some x
  | none => if hasInnerUnderscores cs then unblankedReal? (cs.filter (· ≠ '_')) else none

/-- What is left of a text without zeros in front, and underscores among them. A sign may follow
them, and one zero stays where no digit does. -/
def withoutLeadingZeros? (cs : List Char) : Option (List Char) :=
  match cs with
  | '0' :: _ =>
    let zeros := cs.takeWhile fun c => c = '0' || c = '_'
    match cs.drop zeros.length with
    | [] => zeros.getLast?.map ([·])
    | '.' :: rest => zeros.getLast?.map fun last => last :: '.' :: rest
    | c :: rest => if c.isDigit || c = '-' then some (c :: rest) else none
  | c :: _ => if c.isDigit || c = '-' then some cs else none
  | [] => none

def withoutZeroPart (cs : List Char) : List Char :=
  let part := (cs.dropWhile (· ≠ '.')).drop 1
  if !part.isEmpty && part.all (· = '0') then cs.takeWhile (· ≠ '.') else cs

/-- The digits that count in the text of an integer, a sign in front. A plus sign, zeros in front,
zeros after a point and single underscores inside do not count. -/
def integerDigits? (cs : List Char) : Option (List Char) := do
  let unsigned :=
    match cs with
    | '+' :: rest => rest
    | _ => cs
  let digits := withoutZeroPart (← withoutLeadingZeros? unsigned)
  if !digits.contains '_' then some digits
  else if hasInnerUnderscores digits then some (digits.filter (· ≠ '_'))
  else none

/-- The integer that digits with a sign in front write, without needless zeros. -/
def integerOfDigits (cs : List Char) : Except Problem Int :=
  let (negative, digits) :=
    match cs with
    | '-' :: rest => (true, rest)
    | _ => (false, cs)
  let front := digits.takeWhile Char.isDigit
  if digits.isEmpty || (digits.head? = some '0' && digits.length ≠ 1) then .error .unreadableInteger
  else if Json.integerDigitLimit < front.length + (if negative then 1 else 0) then
    .error .oversizeInteger
  else if front.length ≠ digits.length then .error .unreadableInteger
  else
    let n : Int := Json.natOfDigits digits
    .ok (if negative then -n else n)

def integerOfText (cs : List Char) : Except Problem Int :=
  match integerDigits? cs with
  | some digits => integerOfDigits digits
  | none => .error .unreadableInteger

/-- The text that a value is; `broken` is what is wrong with bytes that are none. -/
def textOf? (broken : Problem) : Json → Option (Except Problem String)
  | .text s => some (.ok s)
  | .bytes b =>
    match Text.ofBytes? b with
    | some s => some (.ok s)
    | none => some (.error broken)
  | .halfText => some (.error .brokenText)
  | _ => none

def broken? (bounds : List Bound) (x : Number) : Option Bound := bounds.find? fun b => !b.holds x

/-- A binary number of any size, or none. -/
def unboundedReal (medium : Medium) (v : Json) : Except Problem Binary64 :=
  match v with
  | .integer n =>
    match medium, Binary64.ofInt? n with
    | _, some x => .ok x
    | .document, none => .ok (.ofInt n)
    | .memory, none => .error Problem.notANumber
  | .truth b => .ok (if b then .one else .zero false)
  | .real x => .ok x
  | _ =>
    match textOf? .unreadableNumber v with
    | some written => written.bind fun s =>
      match realOfText? s with
      | some x => .ok x
      | none => .error .unreadableNumber
    | none => .error .notANumber

def real (medium : Medium) (bounds : List Bound) (v : Json) : Except Problem Binary64 := do
  let x ← unboundedReal medium v
  match broken? bounds (.real x) with
  | some bound => .error (.outOfBounds bound)
  | none => .ok x

def isWord (n : Int) : Bool := -0x8000000000000000 ≤ n && n < 0x8000000000000000

/-- The integer a binary number is, where it has no fraction and fits 64 bits. -/
def wholeReal (x : Binary64) : Except Problem Int :=
  match x.value? with
  | none => .error .notFinite
  | some q =>
    if q.den ≠ 1 then .error .fractionalInteger
    else if isWord q.num && q.num != -0x8000000000000000 then .ok q.num
    else .error .oversizeInteger

def integer (bounds : List Bound) (v : Json) : Except Problem Int := do
  let n ←
    match v with
    | .integer n => .ok n
    | .truth b => .ok (if b then 1 else 0)
    | .real x => wholeReal x
    | _ =>
      match textOf? .unreadableInteger v with
      | some written => written.bind fun s => integerOfText (Text.trimList Text.isSpace s.toList)
      | none => .error .notAnInteger
  match broken? bounds (.integer n) with
  | some bound => .error (.outOfBounds bound)
  | none => .ok n

def booleanOfText (s : String) : Except Problem Bool :=
  let name := Text.lowerAscii s
  if ["0", "off", "f", "false", "n", "no"].contains name then .ok false
  else if ["1", "on", "t", "true", "y", "yes"].contains name then .ok true
  else .error .unreadableBoolean

def boolean (v : Json) : Except Problem Bool :=
  match v with
  | .truth b => .ok b
  | .integer n =>
    if n = 0 then .ok false
    else if n = 1 then .ok true
    else if isWord n then .error .unreadableBoolean
    else .error .notABoolean
  | .real x =>
    match wholeReal x with
    | .ok 0 => .ok false
    | .ok 1 => .ok true
    | .ok _ => .error .unreadableBoolean
    | .error _ => .error .notABoolean
  | _ =>
    match textOf? .unreadableBoolean v with
    | some written => written.bind booleanOfText
    | none => .error .notABoolean

def text (v : Json) : Except Problem String :=
  (textOf? .brokenText v).getD (.error .notAText)

def nonemptyText (v : Json) : Except Problem String := do
  let s ← text v
  if s.isEmpty then .error .emptyText else .ok s

def optionalText (v : Json) : Except Problem (Option String) :=
  match v with
  | .null => .ok none
  | _ => (text v).map some

def oneOf {α : Type} (named : List (String × α)) (v : Json) : Except Problem α :=
  let other := Problem.notOneOf (named.map Prod.fst)
  match textOf? other v with
  | some written => written.bind fun s =>
    match named.find? fun (name, _) => name = s with
    | some (_, a) => .ok a
    | none => .error other
  | none => .error other

/-- The member that stands under one of some names, the earlier name first. -/
def member? (members : List (String × Json)) : List String → Option (String × Json)
  | [] => none
  | name :: rest =>
    match Json.lookup name members with
    | some v => some (name, v)
    | none => member? members rest

/-- A member that has to be there; its absence is reported under its first name. -/
def required {α : Type} (members : List (String × Json)) (names : List String)
    (read : Json → Checked α) : Checked α :=
  match member? members names with
  | some (name, v) => (read v).under (.member name)
  | none => .error [⟨[.member (names.headD "")], .missing⟩]

def withDefault {α : Type} (members : List (String × Json)) (names : List String) (standard : α)
    (read : Json → Checked α) : Checked α :=
  match member? members names with
  | some (name, v) => (read v).under (.member name)
  | none => .ok standard

def nullable {α : Type} (read : Json → Checked α) (v : Json) : Checked (Option α) :=
  match v with
  | .null => .ok none
  | _ => (read v).map some

/-- The members of an object; `model` is what the object describes. -/
def members (medium : Medium) (model : String) (v : Json) : Checked (List (String × Json)) :=
  match v, medium with
  | .object ms, _ => .ok ms
  | _, .document => .error [⟨[], .notAnObject⟩]
  | _, .memory => .error [⟨[], .notAnInstance model⟩]

def listItems (medium : Medium) (v : Json) : Checked (List Json) :=
  match v, medium with
  | .array items, _ => .ok items
  | _, .document => .error [⟨[], .notAnArray⟩]
  | _, .memory => .error [⟨[], .notAList⟩]

end Conversion

end Tracing
