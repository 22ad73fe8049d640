import Tracing.Json
/-!
Members of a value by name, with a standard where a member is left out or of another kind.
-/

set_option autoImplicit false
set_option relaxedAutoImplicit false

namespace Tracing.Json

def field (name : String) (j : Json) : Json := (j.get? name).getD .null

def fieldOr (j : Json) (name : String) (standard : Json) : Json := (j.get? name).getD standard

/-- The member of a name, unless it is null. -/
def given? (name : String) (j : Json) : Option Json :=
  match j.get? name with
  | some .null => none
  | member => member

def has (name : String) (j : Json) : Bool := (j.get? name).isSome

def textAt? (name : String) (j : Json) : Option String :=
  match j.get? name with
  | some (.text s) => some s
  | _ => none

def textOr (name standard : String) (j : Json) : String := (j.textAt? name).getD standard

def intOr (name : String) (standard : Int) (j : Json) : Int :=
  (((j.get? name).bind toNumber?).bind Number.toInt?).getD standard

def numberOr (name : String) (standard : Number) (j : Json) : Number :=
  ((j.get? name).bind toNumber?).getD standard

/-- Whether what stands under a name is present, or a standard. -/
def flagOr (name : String) (standard : Bool) (j : Json) : Bool :=
  ((j.get? name).map isPresent).getD standard

def itemsOf (name : String) (j : Json) : List Json :=
  match j.get? name with
  | some (.array items) => items
  | _ => []

def membersOf (name : String) (j : Json) : List (String × Json) :=
  match j.get? name with
  | some (.object ms) => ms
  | _ => []

mutual

def depth : Json → Nat
  | array items => depthOfItems items + 1
  | object members => depthOfMembers members + 1
  | _ => 1

def depthOfItems : List Json → Nat
  | [] => 0
  | v :: rest => max v.depth (depthOfItems rest)

def depthOfMembers : List (String × Json) → Nat
  | [] => 0
  | (_, v) :: rest => max v.depth (depthOfMembers rest)

end

end Tracing.Json
