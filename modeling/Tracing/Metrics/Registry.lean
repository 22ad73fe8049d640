import Tracing.Metrics.Instrument
import Tracing.Notice
import Tracing.Number.Written
/-!
A registry of metric families. All instruments of one name form a family of one kind whose tags
have the same names; each combination of tag values has a value of its own. A family claims the
names under which its values are exposed, and no two families share a claimed name.
-/

set_option autoImplicit false
set_option relaxedAutoImplicit false

namespace Tracing.Metrics

def InstrumentKind.familyName : InstrumentKind → String
  | counter => "Counter"
  | gauge => "Gauge"

/-- Instruments of one name. Values stand under the tag values in the order of the tag names. -/
structure Family where
  name : String
  kind : InstrumentKind
  labels : List String
  values : List (List String × Binary64) := []

namespace Family

def totalMark : String := "_total"

def unmarked (name : String) : String :=
  let cs := name.toList.reverse
  let mark := totalMark.toList.reverse
  if cs.take mark.length = mark then String.ofList (cs.drop mark.length).reverse else name

/-- The name a family stands under: counters lose the mark that is put back when exposed. -/
def baseName (f : Family) : String :=
  match f.kind with
  | .counter => unmarked f.name
  | .gauge => f.name

def exposedName (f : Family) : String :=
  match f.kind with
  | .counter => f.baseName ++ totalMark
  | .gauge => f.baseName

def claimedNames (f : Family) : List String :=
  match f.kind with
  | .counter => [f.baseName, f.baseName ++ totalMark, f.baseName ++ "_created"]
  | .gauge => [f.baseName]

def find? (labels : List String) : List (List String × Binary64) → Option Binary64
  | [] => none
  | (k, x) :: rest => if k = labels then some x else find? labels rest

/-- Adds a combination with value zero unless it is there. -/
def touch (labels : List String) (values : List (List String × Binary64)) :
    List (List String × Binary64) :=
  match find? labels values with
  | some _ => values
  | none => values ++ [(labels, .zero false)]

def set (labels : List String) (x : Binary64) :
    List (List String × Binary64) → List (List String × Binary64)
  | [] => []
  | (k, y) :: rest => if k = labels then (k, x) :: rest else (k, y) :: set labels x rest

end Family

/-- Why a registry refuses something. -/
inductive RegistryFault where
  | unnamed
  | emptyBaseName
  | reservedLabel (label : String)
  | otherShape (name : String) (kind : InstrumentKind) (labels : List String)
  | claimedName
  | takenLabel
  | negativeIncrement
  | wrongType
  | unreadable (amount : Json)
  | tooLarge

namespace RegistryFault

/-- Tag names in parentheses; a comma follows a lone one. -/
def labelList (labels : List String) : String :=
  match labels.map Text.shown with
  | [one] => "(" ++ one ++ ",)"
  | shown => "(" ++ String.intercalate ", " shown ++ ")"

/-- The message of a refusal, where it has one. -/
def message? : RegistryFault → Option String
  | unnamed => some "Metric name should not be empty"
  | emptyBaseName => some "metric name cannot be empty"
  | reservedLabel label => some ("Reserved label metric name: " ++ label)
  | otherShape name kind labels =>
    some (s!"Metric {name} already registered as {kind.familyName} with labels " ++
      labelList labels)
  | claimedName | takenLabel | wrongType => none
  | negativeIncrement => some "Counters can only be incremented by non-negative amounts."
  | unreadable amount => some amount.unwrittenMessage
  | tooLarge => none

end RegistryFault

/-- An instrument of a registry: its family and its tag values. -/
structure Series where
  family : String
  labels : List String

/-- Families in the order of their registration. -/
structure Registry where
  families : List Family := []

namespace Registry

/-- Whether a tag name is kept for internal use: two underscores start it, and it is one line. -/
def isReserved (label : String) : Bool :=
  match label.toList with
  | '_' :: '_' :: rest =>
    let line := if rest.getLast? = some '\n' then rest.dropLast else rest
    !line.contains '\n'
  | _ => false

def find? (name : String) (r : Registry) : Option Family := r.families.find? (·.name = name)

def put (f : Family) (r : Registry) : Registry :=
  ⟨r.families.map fun g => if g.name = f.name then f else g⟩

/-- Registers a new family. Its own names are checked before the names of the others. -/
def register (f : Family) (r : Registry) : Except RegistryFault Registry :=
  if f.name.isEmpty then .error .unnamed else
  match f.labels.find? isReserved with
  | some label => .error (.reservedLabel label)
  | none =>
    if f.baseName.isEmpty then .error .emptyBaseName
    else if r.families.any fun g => g.claimedNames.any f.claimedNames.contains then
      .error .claimedName
    else .ok ⟨r.families ++ [f]⟩

/-- The name that no tag of an instrument may have: it stands for the family itself. -/
def takenLabel : String := "self"

/-- The family of a name, a kind and tag names, registered if it is new, and the events logged. -/
def family (kind : InstrumentKind) (name : String) (labels : List String) (r : Registry) :
    Except RegistryFault (Family × Registry × List Notice) :=
  match r.find? name with
  | some f =>
    if f.kind = kind && f.labels = labels then .ok (f, r, [])
    else .error (.otherShape name f.kind f.labels)
  | none =>
    let f : Family := { name, kind, labels }
    (r.register f).map fun r => (f, r, [Notice.metricRegistered name labels])

/-- An instrument of a name and tags, the registry with it, and the events logged. A family stays
registered where it gives no instrument. -/
def create (kind : InstrumentKind) (name : String) (tags : Tags) (r : Registry) :
    Except RegistryFault Series × Registry × List Notice :=
  let sorted := sortTags tags
  let labels := sorted.map Prod.fst
  match r.family kind name labels with
  | .error f => (.error f, r, [])
  | .ok (family, r, notices) =>
    if labels.contains takenLabel then (.error .takenLabel, r, notices) else
    let values := sorted.map fun (_, v) => v.plain
    (.ok ⟨name, values⟩, r.put { family with values := Family.touch values family.values }, notices)

/-- The name of a family from any value: what is not present is no name, and only a text is one. -/
def nameOf (name : Json) : Except RegistryFault String :=
  match name with
  | .text s => .ok s
  | v => if v.isPresent || !v.isKey then .error .wrongType else .ok ""

/-- The tag names that a list of texts, or the characters of a text, are without any values. -/
def bareLabels? (tags : Json) : Option (List String) :=
  let names? : Option (List String) :=
    match tags with
    | .array items => items.mapM fun v =>
      match v with
      | .text s => some s
      | _ => none
    | .text s => some (s.toList.map String.singleton)
    | _ => none
  names?.map fun names => (sortTags (names.map fun name => (name, Json.null))).map Prod.fst

/-- An instrument of a name and tags that may be any values. Tag names without values make a family
but no instrument. -/
def createGiven (kind : InstrumentKind) (name tags : Json) (r : Registry) :
    Except RegistryFault Series × Registry × List Notice :=
  match nameOf name, tags with
  | .error f, _ => (.error f, r, [])
  | .ok name, .object ms => r.create kind name ms
  | .ok name, _ =>
    if !tags.isPresent then r.create kind name [] else
    match (bareLabels? tags).map fun labels => r.family kind name labels with
    | none => (.error .wrongType, r, [])
    | some (.error f) => (.error f, r, [])
    | some (.ok (_, r, notices)) => (.error .wrongType, r, notices)

def increment (s : Series) (delta : Number) (r : Registry) : Except RegistryFault Registry :=
  if delta.lt (.integer 0) then .error .negativeIncrement else
  match r.find? s.family with
  | none => .ok r
  | some f =>
    match delta.toBinary64?, Family.find? s.labels f.values with
    | some d, some x => .ok (r.put { f with values := Family.set s.labels (x + d) f.values })
    | some _, none => .ok r
    | none, _ => .error .tooLarge

def incrementGiven (s : Series) (delta : Json) (r : Registry) : Except RegistryFault Registry :=
  match delta.toNumber? with
  | some n => r.increment s n
  | none => .error .wrongType

/-- Sets a gauge to a number, or to what a text writes. -/
def update (s : Series) (amount : Json) (r : Registry) : Except RegistryFault Registry :=
  match r.find? s.family, amount.writtenReal with
  | _, .error .tooLarge => .error .tooLarge
  | _, .error .wrongType => .error .wrongType
  | _, .error _ => .error (.unreadable amount)
  | none, .ok _ => .ok r
  | some f, .ok x => .ok (r.put { f with values := Family.set s.labels x f.values })

def value? (name : String) (tags : Tags) (r : Registry) : Option Binary64 :=
  let sorted := sortTags tags
  r.families.findSome? fun f =>
    if f.exposedName = name && f.labels = sorted.map Prod.fst then
      f.values.findSome? fun (labels, x) =>
        let given := sorted.map fun (_, v) =>
          match v with
          | .text s => some s
          | _ => none
        if labels.map some = given then some x else none
    else none

/-- Creates all instruments of the tracer, up to the first that is refused. -/
def createAll (pre : String) :
    List Instrument → Registry → Option RegistryFault × Registry × List Notice
  | [], r => (none, r, [])
  | i :: rest, r =>
    match r.create i.definition.kind (pre ++ i.definition.name) i.tags with
    | (.error f, r, notices) => (some f, r, notices)
    | (.ok _, r, notices) =>
      let (fault, r, more) := createAll pre rest r
      (fault, r, notices ++ more)

/-- Moves an instrument of the tracer: a counter by an amount, a gauge to it. -/
def move (pre : String) (i : Instrument) (amount : Json) (r : Registry) :
    Except RegistryFault Registry :=
  let s : Series :=
    ⟨pre ++ i.definition.name, (sortTags i.tags).map fun (_, v) => v.plain⟩
  match i.definition.kind with
  | .counter => r.incrementGiven s amount
  | .gauge => r.update s amount

def familyJson (f : Family) : Json :=
  .array [.text f.name, .text f.kind.familyName, .array (f.labels.map .text)]

def insertFamily (f : Family) : List Family → List Family
  | [] => [f]
  | g :: rest => if g.name < f.name then g :: insertFamily f rest else f :: g :: rest

/-- The families in the order of their names. -/
def sortedFamilies (r : Registry) : List Family := r.families.foldr insertFamily []

end Registry

end Tracing.Metrics
