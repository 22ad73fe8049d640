import Tracing.Json.Token
/-!
Reading a JSON text: a stack of open brackets takes the words one by one. The stack is the only
memory, so the reader needs no bound of its own, and the depth limit is a limit on the stack.
-/

set_option autoImplicit false
set_option relaxedAutoImplicit false

namespace Tracing

namespace Json

/-- Why a text is not read. -/
inductive ReadError where
  | malformed
  | tooDeep
  | overlong (digits : Nat)
  deriving DecidableEq

/-- An open bracket with what it holds so far, latest first. A name with half a character is
none. -/
inductive Frame where
  | items (done : List Json)
  | members (done : List (String × Json)) (name : Option String)

/-- What a reader expects next. -/
inductive Reading where
  /-- A value, or the end of the array just opened. -/
  | value (stack : List Frame) (mayClose : Bool)
  /-- A name, or the end of the object just opened. -/
  | name (done : List (String × Json)) (stack : List Frame) (mayClose : Bool)
  /-- The colon after a name. -/
  | colon (done : List (String × Json)) (name : Option String) (stack : List Frame)
  /-- A comma or a closing bracket after a value, or the end of the text. -/
  | after (value : Json) (stack : List Frame)

/-- A member as read. What stands under a name with half a character is not looked at. -/
def namedMember (name : Option String) (v : Json) : String × Json :=
  match name with
  | some k => (k, v)
  | none => ("\uFFFD", .misnamed)

def Reading.step (dialect : JsonDialect) : Reading → Token → Except ReadError Reading
  | .value (.items [] :: stack) true, .closeArray => .ok (.after (.array []) stack)
  | .value stack _, token =>
    let mayOpen :=
      stack.length < dialect.depth || (stack.length = dialect.depth && dialect.admitsEmptyDeeper)
    match token with
    | .scalar v =>
      if stack.length ≤ dialect.depth then .ok (.after v stack) else .error .tooDeep
    | .overlong n => .error (.overlong n)
    | .openArray => if mayOpen then .ok (.value (.items [] :: stack) true) else .error .tooDeep
    | .openObject => if mayOpen then .ok (.name [] stack true) else .error .tooDeep
    | _ => .error .malformed
  | .name done stack _, .scalar (.text k) => .ok (.colon done (some k) stack)
  | .name done stack _, .scalar .halfText => .ok (.colon done none stack)
  | .name [] stack true, .closeObject => .ok (.after (.object []) stack)
  | .colon done k stack, .colon => .ok (.value (.members done k :: stack) false)
  | .after v (.items done :: stack), .comma => .ok (.value (.items (v :: done) :: stack) false)
  | .after v (.items done :: stack), .closeArray =>
    .ok (.after (.array (v :: done).reverse) stack)
  | .after v (.members done k :: stack), .comma =>
    .ok (.name (namedMember k v :: done) stack false)
  | .after v (.members done k :: stack), .closeObject =>
    .ok (.after (.object (namedMember k v :: done).reverse) stack)
  | _, _ => .error .malformed

def Reading.run (dialect : JsonDialect) : Reading → List Token → Except ReadError Reading
  | state, [] => .ok state
  | state, token :: rest =>
    match state.step dialect token with
    | .ok next => next.run dialect rest
    | .error e => .error e

def read (dialect : JsonDialect) (cs : List Char) : Except ReadError Json :=
  match (Reading.value [] false).run dialect (tokens dialect cs) with
  | .ok (.after v []) => .ok v
  | .ok _ => .error .malformed
  | .error e => .error e

end Json

namespace JsonDialect

def document : JsonDialect := ⟨200, true, false, true⟩

def settings : JsonDialect := ⟨988, false, true, false⟩

def settingsVariable : JsonDialect := { settings with depth := 980 }

end JsonDialect

end Tracing
