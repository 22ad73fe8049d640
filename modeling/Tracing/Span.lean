import Tracing.Identifier
/-!
A span that has ended and waits for export. Only what delivery reads is kept here.
-/

set_option autoImplicit false
set_option relaxedAutoImplicit false

namespace Tracing

/-- Named dynamic values, in the order given. -/
abbrev Tags := List (String × Json)

/-- A finished unit of work. Its name, its start and its mark are kept as the tracer gave them.
Members that were given as something of another kind than they are stand among the misfits under
their names. -/
structure Span where
  traceId : Int
  spanId : Int
  operation : Json
  parentId : Int := 0
  startMicros : Json := .integer 0
  durationMicros : Number := .integer 0
  sampled : Json := .truth true
  tags : Tags := []
  misfits : Tags := []

namespace Span

def misfit? (s : Span) (name : String) : Option Json := s.misfits.lookup name

def isRoot (s : Span) : Bool :=
  match s.misfit? "parent_id" with
  | some v => v.toNumber?.any (Number.eq (.integer 0))
  | none => s.parentId == 0

def givenDuration (s : Span) : Json :=
  (s.misfit? "duration_micros").getD (.ofNumber s.durationMicros)

def isSampled (s : Span) : Bool := s.sampled.isPresent

def toJson (s : Span) : Json :=
  .object [
    ("trace_id", .text (Identifier.exported s.traceId)),
    ("span_id", .text (Identifier.exported s.spanId)),
    ("parent_id", .text (Identifier.exported s.parentId)),
    ("operation_name", s.operation),
    ("start_time_micros", s.startMicros),
    ("duration_micros", s.givenDuration),
    ("sampled", s.sampled),
    ("tags", .object s.tags)]

end Span

end Tracing
