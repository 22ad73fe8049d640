import Tracing.Number
/-!
Dynamic values: the values of tags, of log fields, and of documents before they are checked. An
object keeps its members in the order written, repeated names included; where a name counts once,
its last member is meant. A document may write halves of characters, which are no text; a value and
a name that hold one are kept as such, so that whoever reads them may refuse them.
-/

set_option autoImplicit false
set_option relaxedAutoImplicit false

namespace Tracing

/-- A dynamic value. Integers and binary numbers stay apart. -/
inductive Json where
  | null
  | truth (b : Bool)
  | integer (n : Int)
  | real (x : Binary64)
  | text (s : String)
  | bytes (b : List UInt8)
  /-- A text with half a character. -/
  | halfText
  /-- What stands under a name with half a character. -/
  | misnamed
  | array (items : List Json)
  | object (members : List (String × Json))

namespace Json

instance : Inhabited Json := ⟨null⟩

/-- The member of a list that a name stands for: its last one. -/
def lookup (name : String) : List (String × Json) → Option Json
  | [] => none
  | (k, v) :: rest =>
    match lookup name rest with
    | some later => some later
    | none => if k = name then some v else none

def get? (name : String) : Json → Option Json
  | object members => lookup name members
  | _ => none

/-- Sets a name to a value: in its place if the name is there, at the end if it is new. -/
def put (name : String) (value : Json) : List (String × Json) → List (String × Json)
  | [] => [(name, value)]
  | (k, v) :: rest => if k = name then (k, value) :: rest else (k, v) :: put name value rest

/-- One member for each name: the first place of the name with its last value. -/
def distinct (members : List (String × Json)) : List (String × Json) :=
  members.foldl (fun done (name, value) => put name value done) []

def ofNumber : Number → Json
  | .integer n => integer n
  | .truth b => truth b
  | .real x => real x

def toNumber? : Json → Option Number
  | integer n => some (.integer n)
  | truth b => some (.truth b)
  | real x => some (.real x)
  | _ => none

def isText (s : String) : Json → Bool
  | text t => t = s
  | _ => false

/-- Whether a value can be a key: whatever is not made of other values. -/
def isKey : Json → Bool
  | array _ | object _ => false
  | _ => true

/-- Whether a value is present: neither null, false, zero nor empty. -/
def isPresent : Json → Bool
  | null => false
  | truth b => b
  | integer n => n != 0
  | real x => (Number.real x).isNonzero
  | text s => !s.isEmpty
  | bytes b => !b.isEmpty
  | halfText | misnamed => true
  | array items => !items.isEmpty
  | object members => !members.isEmpty

end Json

end Tracing
