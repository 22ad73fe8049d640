import Tracing.Json
/-!
The words of a JSON text: brackets, separators and scalars, with the blanks between them dropped.
A character that starts no word yields the word `invalid`, so that the grammar meets words and
faults in the order of the text. Readers differ in what they admit; a `JsonDialect` says how.
-/

set_option autoImplicit false
set_option relaxedAutoImplicit false

namespace Tracing

/-- What a reader admits. -/
structure JsonDialect where
  /-- How deep brackets may nest. -/
  depth : Nat
  /-- Whether empty brackets may stand one deeper. -/
  admitsEmptyDeeper : Bool
  /-- Whether escapes may write half a character. -/
  admitsHalves : Bool
  /-- Whether the limit on the digits of integers holds for the whole part of every number. -/
  limitsAllNumbers : Bool

namespace Json

/-- A word of a JSON text. -/
inductive Token where
  | openObject
  | closeObject
  | openArray
  | closeArray
  | colon
  | comma
  | scalar (value : Json)
  | overlong (digits : Nat)
  | invalid

def hexValue? (c : Char) : Option Nat :=
  if '0' ≤ c ∧ c ≤ '9' then some (c.toNat - '0'.toNat)
  else if 'a' ≤ c ∧ c ≤ 'f' then some (c.toNat - 'a'.toNat + 10)
  else if 'A' ≤ c ∧ c ≤ 'F' then some (c.toNat - 'A'.toNat + 10)
  else none

def unit? (a b c d : Char) : Option Nat := do
  let a ← hexValue? a
  let b ← hexValue? b
  let c ← hexValue? c
  let d ← hexValue? d
  return ((a * 16 + b) * 16 + c) * 16 + d

def escaped? : Char → Option Char
  | '"' => some '"'
  | '\\' => some '\\'
  | '/' => some '/'
  | 'b' => some '\x08'
  | 'f' => some '\x0C'
  | 'n' => some '\n'
  | 'r' => some '\r'
  | 't' => some '\t'
  | _ => none

def isLeading (u : Nat) : Bool := 0xD800 ≤ u && u < 0xDC00

def isTrailing (u : Nat) : Bool := 0xDC00 ≤ u && u < 0xE000

/-- What stands up to the closing quote, and what follows it: code points, of which escapes may
write halves of pairs. Control characters and unknown escapes have no reading. -/
def quotedBody : List Char → Option (List Nat × List Char)
  | [] => none
  | '"' :: rest => some ([], rest)
  | '\\' :: 'u' :: a :: b :: c :: d :: rest =>
    match unit? a b c d with
    | none => none
    | some u => (quotedBody rest).map fun (units, after) => (u :: units, after)
  | '\\' :: c :: rest =>
    match escaped? c with
    | none => none
    | some e => (quotedBody rest).map fun (units, after) => (e.toNat :: units, after)
  | c :: rest =>
    if c.toNat < 0x20 || c = '\\' then none
    else (quotedBody rest).map fun (units, after) => (c.toNat :: units, after)

/-- The characters of code points whose pairs are joined; a half without its other half is none. -/
def joinPairs : List Nat → List (Option Char)
  | [] => []
  | [u] => [if isLeading u || isTrailing u then none else some (Char.ofNat u)]
  | u :: v :: rest =>
    if isLeading u && isTrailing v then
      some (Char.ofNat (0x10000 + (u - 0xD800) * 0x400 + (v - 0xDC00))) :: joinPairs rest
    else
      (if isLeading u || isTrailing u then none else some (Char.ofNat u)) :: joinPairs (v :: rest)

/-- The value that code points between quotes write, where a dialect admits them. -/
def quoted? (dialect : JsonDialect) (units : List Nat) : Option Json :=
  match (joinPairs units).mapM id with
  | some cs => some (.text (String.ofList cs))
  | none => if dialect.admitsHalves then some .halfText else none

def spanDigits (cs : List Char) : List Char × List Char := cs.span Char.isDigit

def natOfDigits (ds : List Char) : Nat :=
  ds.foldl (fun n d => n * 10 + (d.toNat - '0'.toNat)) 0

/-- The digits after a point, none where there is no point. -/
def fraction? : List Char → Option (List Char × List Char)
  | '.' :: rest =>
    match spanDigits rest with
    | ([], _) => none
    | (ds, after) => some (ds, after)
  | rest => some ([], rest)

/-- The exponent after the letter e, none where there is no such letter. -/
def exponent? : List Char → Option (Option Int × List Char)
  | c :: rest =>
    if c = 'e' ∨ c = 'E' then
      let (negative, rest) :=
        match rest with
        | '-' :: rest => (true, rest)
        | '+' :: rest => (false, rest)
        | _ => (false, rest)
      match spanDigits rest with
      | ([], _) => none
      | (ds, after) =>
        let n : Int := natOfDigits ds
        some (some (if negative then -n else n), after)
    else some (none, c :: rest)
  | [] => some (none, [])

/-- The digits before the point: a lone zero, or digits that do not start with zero. -/
def whole? (cs : List Char) : Option (List Char × List Char) :=
  match cs with
  | '0' :: rest => some (['0'], rest)
  | _ =>
    match spanDigits cs with
    | ([], _) => none
    | (ds, after) => some (ds, after)

def integerDigitLimit : Nat := 4300

/-- The number at the front of a text: an integer, unless it has a fraction or an exponent. -/
def number? (dialect : JsonDialect) (negative : Bool) (cs : List Char) :
    Option (Token × List Char) := do
  let (ds, rest) ← whole? cs
  let (fs, rest) ← fraction? rest
  let (e, rest) ← exponent? rest
  let isInteger := fs.isEmpty && e.isNone
  if (isInteger || dialect.limitsAllNumbers) && integerDigitLimit < ds.length then
    return (.overlong ds.length, rest)
  if isInteger then
    let n : Int := natOfDigits ds
    return (.scalar (.integer (if negative then -n else n)), rest)
  let d : Decimal := ⟨natOfDigits (ds ++ fs), e.getD 0 - fs.length⟩
  return (.scalar (.real (d.round negative)), rest)

def after? : List Char → List Char → Option (List Char)
  | [], rest => some rest
  | _ :: _, [] => none
  | w :: ws, c :: cs => if w = c then after? ws cs else none

def names : List (List Char × Json) :=
  [("true".toList, .truth true), ("false".toList, .truth false), ("null".toList, .null),
    ("NaN".toList, .real .nan), ("Infinity".toList, .real (.infinite false)),
    ("-Infinity".toList, .real (.infinite true))]

def named? (cs : List Char) : Option (Token × List Char) :=
  names.findSome? fun (word, value) => (after? word cs).map fun rest => (.scalar value, rest)

/-- The word that starts with a character, and what follows it. -/
def word? (dialect : JsonDialect) (c : Char) (rest : List Char) : Option (Token × List Char) :=
  match c with
  | '\x7b' => some (.openObject, rest)
  | '\x7d' => some (.closeObject, rest)
  | '[' => some (.openArray, rest)
  | ']' => some (.closeArray, rest)
  | ':' => some (.colon, rest)
  | ',' => some (.comma, rest)
  | '"' => do
    let (units, after) ← quotedBody rest
    let v ← quoted? dialect units
    return (.scalar v, after)
  | '-' => if rest.head? = some 'I' then named? (c :: rest) else number? dialect true rest
  | _ => if c.isDigit then number? dialect false (c :: rest) else named? (c :: rest)

def isGap (c : Char) : Bool := c = ' ' || c = '\t' || c = '\n' || c = '\r'

/-- The words of a text, as many as `fuel` allows; nothing is read after an invalid one. -/
def tokensWithin (dialect : JsonDialect) : Nat → List Char → List Token
  | 0, _ => []
  | _ + 1, [] => []
  | fuel + 1, c :: rest =>
    if isGap c then tokensWithin dialect fuel rest
    else
      match word? dialect c rest with
      | none => [.invalid]
      | some (token, after) => token :: tokensWithin dialect fuel after

/-- The words of a text. Every word has a character of its own, so the length is fuel enough. -/
def tokens (dialect : JsonDialect) (cs : List Char) : List Token :=
  tokensWithin dialect cs.length cs

end Json

end Tracing
