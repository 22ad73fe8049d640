import Tracing.Violation
import Tracing.Span
import Tracing.Http.NameFault
/-!
What can go wrong. A `Failure` is an error of the tracer itself, with details and perhaps a cause;
a `Fault` is anything that keeps an operation from answering.
-/

set_option autoImplicit false
set_option relaxedAutoImplicit false

namespace Tracing

/-- The error behind an error. -/
inductive Cause where
  | invalidDocument (violations : List Violation)
  | refusedStatus
  | transport (kind : String)
  | invalidUrl
  | relativeUrl (url : String)
  | unencodableHeader
  | unreadableHost (fault : Http.NameFault)
  | unwritableBody
  | wrongType
  | closedClient
  | raised (text : String)

/-- An error of the tracer. Where no service is concerned, null stands for it. -/
inductive Failure where
  | general (text : String) (details : Tags) (cause : Option Cause)
  | configuration (text : String) (details : Tags) (cause : Option Cause)
  | parameter (text : String) (name value : Json)
  | strategy (text : String) (service : Json) (cause : Option Cause)
  | document (violations : List Violation) (service : Json)
  | sender (text : String) (dropped : Int) (cause : Option Cause)

namespace Failure

def message : Failure → String
  | general text .. => text
  | configuration text .. => text
  | parameter text .. => text
  | strategy text .. => text
  | document violations _ =>
    s!"Cannot deserialize sampling strategy: {violations.length} error(s)"
  | sender text .. => text

/-- The details shown after the message. An empty service name is not shown, and neither is the
service that asked for a document. -/
def details : Failure → Tags
  | general _ details _ => details
  | configuration _ details _ => details
  | parameter _ name value => [("parameter", name), ("value", value)]
  | strategy _ service _ => if service.isPresent then [("service_name", service)] else []
  | document .. => []
  | sender _ dropped _ => [("dropped_span_count", .integer dropped)]

def cause? : Failure → Option Cause
  | general _ _ cause => cause
  | configuration _ _ cause => cause
  | parameter .. => none
  | strategy _ _ cause => cause
  | document violations _ => some (.invalidDocument violations)
  | sender _ _ cause => cause

def text (f : Failure) : String :=
  if f.details.isEmpty then f.message else
  let shown := f.details.map fun (k, v) => k ++ "=" ++ v.shown
  f.message ++ " (" ++ String.intercalate ", " shown ++ ")"

def rateOutOfRange (rate : Number) : Failure :=
  .parameter s!"Sampling rate must be between 0.0 and 1.0, got {rate.text}"
    (.text "sampling_rate") (.ofNumber rate)

def negativeLimit (limit : Number) : Failure :=
  .parameter s!"Max traces per second must not be negative, got {limit.text}"
    (.text "max_traces_per_second") (.ofNumber limit)

def noOperations (limit : Number) : Failure :=
  .parameter s!"max_operations must be positive, got {limit.text}"
    (.text "max_operations") (.ofNumber limit)

/-- Whether there is no strategy because the source or its document is at fault. -/
def isStrategy : Failure → Bool
  | strategy .. | document .. => true
  | _ => false

def unreachableAgent (service : Json) (cause : Cause) : Failure :=
  .strategy "HTTP call to get sampling strategy from local agent failed" service (some cause)

end Failure

/-- What keeps an operation from answering. -/
inductive Fault where
  | failure (f : Failure)
  | invalidValue (text : String)
  | raised (text : String)
  | wrongType
  | tooLarge
  | request (cause : Cause)
  | invalidSettings (model : String) (violations : List Violation)

namespace Fault

def text : Fault → String
  | failure f => f.text
  | invalidValue text => text
  | raised text => text
  | _ => ""

end Fault

/-- The number a value is; any other value is of the wrong type. -/
def Json.number (v : Json) : Except Fault Number :=
  match v.toNumber? with
  | some n => .ok n
  | none => .error .wrongType

/-- The integer a value counts as; any other value is of the wrong type. -/
def Json.whole (v : Json) : Except Fault Int :=
  match v.toNumber?.bind Number.toInt? with
  | some n => .ok n
  | none => .error .wrongType

end Tracing
