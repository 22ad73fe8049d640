import Tracing.Json
/-!
Faults of checked documents: where in the document a value stands, and what is wrong with it.
-/

set_option autoImplicit false
set_option relaxedAutoImplicit false

namespace Tracing

/-- A step from a value to a value inside it. -/
inductive PathStep where
  | member (name : String)
  | item (index : Nat)
  deriving DecidableEq

/-- A bound on a number. -/
inductive Bound where
  | atMost (limit : Int)
  | below (limit : Int)
  | atLeast (limit : Int)
  | above (limit : Int)
  deriving DecidableEq

/-- What is wrong with a value. -/
inductive Problem where
  | malformedDocument
  | notADocument
  | missing
  | notAnObject
  | notAnInstance (model : String)
  | notANumber
  | unreadableNumber
  | notAnInteger
  | unreadableInteger
  | oversizeInteger
  | fractionalInteger
  | notFinite
  | notAText
  | brokenText
  | emptyText
  | notABoolean
  | unreadableBoolean
  | notAList
  | notAnArray
  | notOneOf (names : List String)
  | outOfBounds (bound : Bound)
  | unexpectedMember
  deriving DecidableEq

/-- A problem and its place. -/
structure Violation where
  place : List PathStep
  problem : Problem
  deriving DecidableEq

namespace Violation

def under (step : PathStep) (v : Violation) : Violation := ⟨step :: v.place, v.problem⟩

end Violation

namespace Bound

def label : Bound → String
  | atMost _ => "less_than_equal"
  | below _ => "less_than"
  | atLeast _ => "greater_than_equal"
  | above _ => "greater_than"

def message : Bound → String
  | atMost n => s!"Input should be less than or equal to {n}"
  | below n => s!"Input should be less than {n}"
  | atLeast n => s!"Input should be greater than or equal to {n}"
  | above n => s!"Input should be greater than {n}"

/-- Whether a number keeps a bound; what is not a number keeps none. -/
def holds (x : Number) : Bound → Bool
  | atMost n => x.le (.integer n)
  | below n => x.lt (.integer n)
  | atLeast n => (Number.integer n).le x
  | above n => (Number.integer n).lt x

end Bound

namespace Problem

def alternatives (names : List String) : String :=
  let quoted := names.map fun n => "'" ++ n ++ "'"
  match quoted.reverse with
  | [] => ""
  | [one] => one
  | last :: rest => String.intercalate ", " rest.reverse ++ " or " ++ last

def label : Problem → String
  | malformedDocument => "json_invalid"
  | notADocument => "json_type"
  | missing => "missing"
  | notAnObject => "model_type"
  | notAnInstance _ => "model_type"
  | notANumber => "float_type"
  | unreadableNumber => "float_parsing"
  | notAnInteger => "int_type"
  | unreadableInteger => "int_parsing"
  | oversizeInteger => "int_parsing_size"
  | fractionalInteger => "int_from_float"
  | notFinite => "finite_number"
  | notAText => "string_type"
  | brokenText => "string_unicode"
  | emptyText => "string_too_short"
  | notABoolean => "bool_type"
  | unreadableBoolean => "bool_parsing"
  | notAList => "list_type"
  | notAnArray => "list_type"
  | notOneOf _ => "enum"
  | outOfBounds bound => bound.label
  | unexpectedMember => "extra_forbidden"

/-- What is asked of the value. The fault of a malformed document is left to its reader. -/
def message? : Problem → Option String
  | malformedDocument => none
  | notADocument => some "JSON input should be string, bytes or bytearray"
  | missing => some "Field required"
  | notAnObject => some "Input should be an object"
  | notAnInstance model =>
    some ("Input should be a valid dictionary or instance of " ++ model)
  | notANumber => some "Input should be a valid number"
  | unreadableNumber => some "Input should be a valid number, unable to parse string as a number"
  | notAnInteger => some "Input should be a valid integer"
  | unreadableInteger =>
    some "Input should be a valid integer, unable to parse string as an integer"
  | oversizeInteger =>
    some "Unable to parse input string as an integer, exceeded maximum size"
  | fractionalInteger =>
    some "Input should be a valid integer, got a number with a fractional part"
  | notFinite => some "Input should be a finite number"
  | notAText => some "Input should be a valid string"
  | brokenText =>
    some "Input should be a valid string, unable to parse raw data as a unicode string"
  | emptyText => some "String should have at least 1 character"
  | notABoolean => some "Input should be a valid boolean"
  | unreadableBoolean => some "Input should be a valid boolean, unable to interpret input"
  | notAList => some "Input should be a valid list"
  | notAnArray => some "Input should be a valid array"
  | notOneOf names => some ("Input should be " ++ alternatives names)
  | outOfBounds bound => some bound.message
  | unexpectedMember => some "Extra inputs are not permitted"

end Problem

def PathStep.toJson : PathStep → Json
  | member name => .text name
  | item i => .integer i

def Violation.toJson (v : Violation) : Json :=
  .object ([("loc", .array (v.place.map PathStep.toJson)), ("type", .text v.problem.label)] ++
    match v.problem.message? with
    | some text => [("msg", .text text)]
    | none => [])

end Tracing
