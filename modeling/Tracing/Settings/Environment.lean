import Tracing.Conversion
import Tracing.Json.Reader
import Tracing.Settings.VariableRules
/-!
Settings in environment variables. Names start with the same words; a delimiter leads into a group,
and a group may also be one variable that holds a JSON text, under the variables of its members.
-/

set_option autoImplicit false
set_option relaxedAutoImplicit false

namespace Tracing

/-- Variables with their values, in the order set. -/
abbrev Environment := List (String × String)

namespace Environment

/-- One variable. No text of it may hold the character that ends texts, and its name is neither
empty nor has the sign that stands between a name and its value. -/
def entry (name : String) : Json → Except SettingsFault (String × String)
  | .text value =>
    if (name ++ value).toList.contains '\x00' then .error .brokenVariable
    else if name.toList.contains '=' then .error .misnamedVariable
    else if name.isEmpty then .error .namelessVariable
    else .ok (name, value)
  | _ => .error .wrongType

/-- Variables from the members of an object; the first that cannot be set is the fault. -/
def ofMembers (members : List (String × Json)) : Except SettingsFault Environment :=
  members.mapM fun (name, value) => entry name value

def suffix? : List Char → List Char → Option (List Char)
  | [], rest => some rest
  | _ :: _, [] => none
  | a :: as, b :: bs => if a = b then suffix? as bs else none

/-- A name cut at its delimiters, at most so often; `fuel` bounds the characters. -/
def cut (delimiter : List Char) : (fuel cuts : Nat) → List Char → List (List Char)
  | 0, _, cs => [cs]
  | _, 0, cs => [cs]
  | _, _, [] => [[]]
  | fuel + 1, cuts + 1, c :: rest =>
    match suffix? delimiter (c :: rest) with
    | some after => [] :: cut delimiter fuel cuts after
    | none =>
      match cut delimiter fuel (cuts + 1) rest with
      | part :: parts => (c :: part) :: parts
      | [] => [[c]]

def pathOf (rules : VariableRules) (cs : List Char) : List String :=
  let cuts := (rules.mostParts.map (· - 1)).getD cs.length
  (cut rules.delimiter.toList cs.length cuts cs).map String.ofList

/-- The variables with their names as the rules compare them; of equal names the later counts. -/
def normalized (env : Environment) (rules : VariableRules) : List (String × Json) :=
  let counted := env.filter fun (_, v) => !(rules.skipsEmpty && v.isEmpty)
  Json.distinct (counted.map fun (k, v) =>
    (rules.folded k, if rules.nullText = some v then .null else .text v))

def isEmptyObject : Json → Bool
  | .object [] => true
  | _ => false

/-- Puts a value under a path of names, making objects on the way; a value that is there already
and no object keeps everything below it out, and no value takes the place of none. -/
def putPath (value : Json) : List String → List (String × Json) → List (String × Json)
  | [], members => members
  | [name], members =>
    match value, Json.lookup name members with
    | .null, some old => if isEmptyObject old then Json.put name value members else members
    | _, _ => Json.put name value members
  | name :: rest, members =>
    match Json.lookup name members with
    | some (.object inner) => Json.put name (.object (putPath value rest inner)) members
    | some _ => members
    | none => Json.put name (.object (putPath value rest [])) members

def variableOf (rules : VariableRules) (name : String) : String :=
  rules.folded (rules.front ++ name)

/-- The members of a group that have variables of their own; `choose` reads choices by their
written names. -/
def explode (rules : VariableRules) (vars : List (String × Json)) (group : String)
    (choose : List String → Json → Json) : List (String × Json) :=
  if rules.delimiter.isEmpty then [] else
  let front := (variableOf rules group).toList ++ rules.delimiter.toList
  vars.foldl (fun done (name, value) =>
    match suffix? front name.toList with
    | some rest =>
      let path := pathOf rules rest
      putPath (choose path value) path done
    | none => done) []

mutual

/-- Lays one value over another: objects member by member, anything else as a whole. -/
def overlay : Json → Json → Json
  | .object below, .object above => .object (overlayMembers below above)
  | _, above => above

def overlayMembers (below : List (String × Json)) :
    List (String × Json) → List (String × Json)
  | [] => below
  | (name, v) :: rest =>
    let merged :=
      match Json.lookup name below with
      | some b => overlay b v
      | none => v
    overlayMembers (Json.put name merged below) rest

end

/-- A name as the rules know it: itself unless the rules fold it into a known one. -/
def knownName (rules : VariableRules) (known : List String) (name : String) : String :=
  let small := rules.folded name
  if known.contains small then small else name

/-- Members under known names; of names that become equal the later counts. -/
def foldNames (rules : VariableRules) (known : List String) (members : List (String × Json)) :
    List (String × Json) :=
  Json.distinct (members.map fun (k, v) => (knownName rules known k, v))

/-- Members under known names; of names that become equal the first counts. -/
def foldGiven (rules : VariableRules) (known : List String) (members : List (String × Json)) :
    List (String × Json) :=
  members.foldl (fun done (k, v) =>
    let name := knownName rules known k
    if (Json.lookup name done).isSome then done else done ++ [(name, v)]) []

/-- The value of a group: its own variable, a JSON text, under the variables of its members. A text
that is no JSON has no reading, and null is as good as no variable. -/
def group? (rules : VariableRules) (vars : List (String × Json)) (known : List String)
    (group : String) (choose : List String → Json → Json) : Except SettingsFault (Option Json) :=
  let exploded := explode rules vars group choose
  match Json.lookup (variableOf rules group) vars with
  | some (.text s) =>
    match Json.read .settingsVariable s.toList with
    | .error .tooDeep => .error .tooDeep
    | .error _ => .error (.unreadableVariable group)
    | .ok .null => .ok none
    | .ok (.object members) =>
      .ok (some (.object (foldNames rules known
        (overlayMembers (Json.distinct members) exploded))))
    | .ok v => .ok (some v)
  | some v => .ok (some v)
  | none =>
    .ok (if exploded.isEmpty then none else some (.object (foldNames rules known exploded)))

end Environment

end Tracing
