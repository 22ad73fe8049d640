import Tracing.Json.Access
import Tracing.Host
import Tracing.Span.Given
/-!
Descriptions of payloads and replies as values.
-/

set_option autoImplicit false
set_option relaxedAutoImplicit false

namespace Tracing.Specification

def payload : Json → Payload
  | .text s => .text s
  | .bytes b => .bytes b
  | _ => .neither

/-- A reply: an answer with a status, or the kind of error that a request meets. -/
def reply (j : Json) : Http.Reply :=
  match j.textAt? "raise" with
  | some "RuntimeError" => .bug "bug"
  | some kind => .broken kind
  | none => .answer (j.intOr "status" 200) (payload (j.fieldOr "body" (.text "")))

def replies (name : String) (j : Json) : List Http.Reply := (j.itemsOf name).map reply

def watch (j : Json) : Watch := ⟨j.textAt? "label", j.textAt? "close_error"⟩

/-- Surroundings: the clock's first reading and the replies of the network. -/
def host (j : Json) : Host :=
  { now := j.numberOr "start_nanos" (.integer 0), network := { replies := replies "http" j } }

def anHour : Binary64 := .ofInt 3600

end Tracing.Specification
