import Tracing.Fault
/-!
Tags as callers give them: an object, or a list of pairs of a name and a value. Of two values for
one name the later counts.
-/

set_option autoImplicit false
set_option relaxedAutoImplicit false

namespace Tracing.Tags

def lengthMessage (place length : Nat) : String :=
  s!"dictionary update sequence element #{place} has length {length}; 2 is required"

/-- The pair that an item of a list is: two items, two characters, or the two names of an object. -/
def pairOf (place : Nat) : Json → Except Fault (String × Json)
  | .array [.text name, value] => .ok (name, value)
  | .array [_, _] => .error .wrongType
  | .array items => .error (.invalidValue (lengthMessage place items.length))
  | .text s =>
    match s.toList with
    | [name, value] => .ok (String.singleton name, .text (String.singleton value))
    | cs => .error (.invalidValue (lengthMessage place cs.length))
  | .object [(name, _), (value, _)] => .ok (name, .text value)
  | .object ms => .error (.invalidValue (lengthMessage place ms.length))
  | _ => .error .wrongType

def pairsFrom (place : Nat) : List Json → Except Fault Tags
  | [] => .ok []
  | item :: rest => do
    let pair ← pairOf place item
    let others ← pairsFrom (place + 1) rest
    return pair :: others

/-- The tags that a value gives. A text gives none, as its characters are no pairs. -/
def ofJson : Json → Except Fault Tags
  | .object ms => .ok ms
  | .array items => (pairsFrom 0 items).map Json.distinct
  | .text s => if s.isEmpty then .ok [] else .error (.invalidValue (lengthMessage 0 1))
  | .bytes [] => .ok []
  | _ => .error .wrongType

end Tracing.Tags
