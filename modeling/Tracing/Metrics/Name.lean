import Tracing.Tags
import Tracing.Text.Blank
/-!
Names of metrics. A name and its tags are flattened into one key, the tags in the order of their
names, so the order in which tags are given does not matter; tags may also be given as one text
of entries separated by commas.
-/

set_option autoImplicit false
set_option relaxedAutoImplicit false

namespace Tracing.Metrics

/-- Inserts an entry in front of the first whose name is not below its own. -/
def insertTag (entry : String × Json) : Tags → Tags
  | [] => [entry]
  | other :: rest =>
    if other.1 < entry.1 then other :: insertTag entry rest else entry :: other :: rest

/-- The entries in the order of their names, by code point. -/
def sortTags (tags : Tags) : Tags := tags.foldr insertTag []

/-- The key of a metric: its name followed by a dot, the tag name, an equals sign and the tag value
for each tag. -/
def flatten (name : String) (tags : Tags) : String :=
  (sortTags tags).foldl (fun key (k, v) => key ++ "." ++ k ++ "=" ++ v.plain) name

/-- The key of a metric whose name and tags are any values. Without tags the name stands as it
is. -/
def flattenGiven (name tags : Json) : Except Fault Json :=
  if !tags.isPresent then .ok name else
  match tags with
  | .object ms => .ok (.text (flatten name.plain ms))
  | _ => .error .wrongType

def listedName : Json → String
  | .null => "null"
  | .truth b => if b then "true" else "false"
  | v => v.plain

/-- The name and tags of an instrument from any values. A name that cannot be a key is none, unless
it becomes part of a text. -/
def nameGiven (name tags : Json) : Except Fault (String × Tags) :=
  if !tags.isPresent then if name.isKey then .ok (listedName name, []) else .error .wrongType
  else
    match tags with
    | .object ms => .ok (name.plain, ms)
    | _ => .error .wrongType

def entries : List Char → List (List Char)
  | [] => [[]]
  | c :: rest =>
    match entries rest with
    | [] => [[]]
    | entry :: others => if c = ',' then [] :: entry :: others else (c :: entry) :: others

/-- An entry cut at its first equals sign, blanks around both parts removed. -/
def splitEntry (entry : List Char) : String × Json :=
  let key := entry.takeWhile (· ≠ '=')
  let value := (entry.dropWhile (· ≠ '=')).drop 1
  (String.ofList (Text.trim key), .text (String.ofList (Text.trim value)))

/-- The tags written as one text: blank entries count for nothing, and of two entries for one name
the later counts. -/
def parseTags (text : String) : Tags :=
  let written := ((entries text.toList).map Text.trim).filter (!·.isEmpty)
  Json.distinct (written.map splitEntry)

/-- Tags as callers give them when looking a metric up. -/
inductive TagQuery where
  | none
  | text (s : String)
  | tags (tags : Tags)

def TagQuery.ofJson : Json → Except Fault TagQuery
  | .null => .ok none
  | .text s => .ok (text s)
  | v => (Tags.ofJson v).map tags

def TagQuery.toTags : TagQuery → Tags
  | none => []
  | text s => parseTags s
  | tags ts => ts

end Tracing.Metrics
