import Tracing.Json.Literal
/-!
Writing dynamic values as JSON text. A `JsonStyle` holds the decisions in which the texts of this
library differ: line breaks, which characters are escaped, and how numbers are laid out.
-/

set_option autoImplicit false
set_option relaxedAutoImplicit false

namespace Tracing

/-- The decisions of a JSON text. -/
structure JsonStyle where
  /-- Spaces per level of nesting, or everything on one line. -/
  indent : Option Nat
  /-- What stands between a name and its value. -/
  nameEnd : String
  /-- Whether characters outside printable ASCII are escaped. -/
  asciiOnly : Bool
  numbers : FloatNotation
  /-- Whether what is not a finite number is written as null. -/
  nonFiniteAsNull : Bool

namespace JsonStyle

def compact : JsonStyle := ⟨none, ":", false, .message, false⟩

def document : JsonStyle := ⟨none, ":", false, .document, true⟩

/-- Two spaces per level and ASCII only, as settings are saved. -/
def saved : JsonStyle := ⟨some 2, ": ", true, ⟨-4, 16, 2, "NaN", "Infinity"⟩, false⟩

def unitEscape (u : Nat) : List Char :=
  let ds := Nat.toDigits 16 u
  '\\' :: 'u' :: (List.replicate (4 - ds.length) '0' ++ ds)

/-- A character as it stands between quotes. -/
def escape (style : JsonStyle) (c : Char) : List Char :=
  match c with
  | '"' => ['\\', '"']
  | '\\' => ['\\', '\\']
  | '\n' => ['\\', 'n']
  | '\r' => ['\\', 'r']
  | '\t' => ['\\', 't']
  | '\x08' => ['\\', 'b']
  | '\x0C' => ['\\', 'f']
  | _ =>
    let n := c.toNat
    if n < 0x20 then unitEscape n
    else if style.asciiOnly && 0x7E < n then
      if n < 0x10000 then unitEscape n
      else unitEscape (0xD800 + (n - 0x10000) / 0x400) ++
        unitEscape (0xDC00 + (n - 0x10000) % 0x400)
    else [c]

def quote (style : JsonStyle) (s : String) : String :=
  String.ofList ('"' :: s.toList.flatMap style.escape ++ ['"'])

def lineBreak (style : JsonStyle) (level : Nat) : String :=
  match style.indent with
  | none => ""
  | some width => String.ofList ('\n' :: List.replicate (width * level) ' ')

/-- Entries between two brackets, each on a line of its own where the style breaks lines. -/
def bracket (style : JsonStyle) (level : Nat) (opening closing : String)
    (entries : List String) : String :=
  if entries.isEmpty then opening ++ closing else
  let inner := style.lineBreak (level + 1)
  opening ++ inner ++ String.intercalate ("," ++ inner) entries ++ style.lineBreak level ++ closing

end JsonStyle

mutual

/-- The text of a value at a level of nesting. -/
def Json.write (style : JsonStyle) (level : Nat) : Json → String
  | .null => "null"
  | .truth b => if b then "true" else "false"
  | .integer n => toString n
  | .real x => if style.nonFiniteAsNull && !x.isFinite then "null" else style.numbers.write x
  | .text s => style.quote s
  | .bytes b => style.quote (Text.shownBytes b)
  | .halfText | .misnamed => "null"
  | .array items => style.bracket level "[" "]" (Json.writeItems style (level + 1) items)
  | .object members =>
    style.bracket level "\x7b" "\x7d" (Json.writeMembers style (level + 1) members)

def Json.writeItems (style : JsonStyle) (level : Nat) : List Json → List String
  | [] => []
  | v :: rest => v.write style level :: Json.writeItems style level rest

def Json.writeMembers (style : JsonStyle) (level : Nat) : List (String × Json) → List String
  | [] => []
  | (k, v) :: rest =>
    (style.quote k ++ style.nameEnd ++ v.write style level) ::
      Json.writeMembers style level rest

end

def Json.render (style : JsonStyle) (v : Json) : String := v.write style 0

end Tracing
