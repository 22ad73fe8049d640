import Tracing.Tags
import Tracing.Json.Access
/-!
Spans as callers give them. A member that is not of its kind does not keep a span from being made
or kept, only from what needs that member: identifiers and tags are needed for export, identifiers
for the log, a duration and keys for filtering.
-/

set_option autoImplicit false
set_option relaxedAutoImplicit false

namespace Tracing

def Number.integral? (x : Number) : Option Int :=
  match x.extended? with
  | some (.value q) => if q.den = 1 then some q.num else none
  | _ => none

namespace Span

def memberNames : List String :=
  ["trace_id", "span_id", "operation_name", "parent_id", "start_time_micros", "duration_micros",
    "sampled", "tags"]

/-- The integer that a value stands for among keys, zero where it stands for none. -/
def keyOf (v : Json) : Int := (v.toNumber?.bind Number.integral?).getD 0

def unlessFits {ε α : Type} (name : String) (v : Json) : Except ε α → Tags
  | .ok _ => []
  | .error _ => [(name, v)]

/-- A span from its members. Identifiers and name have to be there, and nothing else is allowed. -/
def ofJson (j : Json) : Except Fault Span :=
  let known := match j with
    | .object ms => ms.all fun (k, _) => memberNames.contains k
    | _ => false
  if !(known && j.has "trace_id" && j.has "span_id" && j.has "operation_name") then
    .error .wrongType
  else
    let trace := j.field "trace_id"
    let id := j.field "span_id"
    let parent := j.fieldOr "parent_id" (.integer 0)
    let duration := j.fieldOr "duration_micros" (.integer 0)
    let tags := j.fieldOr "tags" (.object [])
    .ok {
      traceId := keyOf trace
      spanId := keyOf id
      operation := j.field "operation_name"
      parentId := keyOf parent
      startMicros := j.fieldOr "start_time_micros" (.integer 0)
      durationMicros := duration.toNumber?.getD (.integer 0)
      sampled := j.fieldOr "sampled" (.truth true)
      tags := (Tags.ofJson tags).toOption.getD []
      misfits := unlessFits "trace_id" trace trace.whole ++ unlessFits "span_id" id id.whole ++
        unlessFits "parent_id" parent parent.whole ++
        unlessFits "duration_micros" duration duration.number ++
        unlessFits "tags" tags (Tags.ofJson tags) }

def exportFault? (s : Span) : Option Fault :=
  if (s.misfit? "trace_id" <|> s.misfit? "span_id" <|> s.misfit? "parent_id").isSome then
    some .wrongType
  else
    match (s.misfit? "tags").map Tags.ofJson with
    | some (.error f) => some f
    | _ => none

def exported (s : Span) : Except Fault Json :=
  match s.exportFault? with
  | some f => .error f
  | none => .ok s.toJson

def isLoggable (s : Span) : Bool := (s.misfit? "trace_id" <|> s.misfit? "span_id").isNone

def isKeyed (s : Span) (name : String) : Bool := (s.misfit? name).all Json.isKey

def isMeasured (s : Span) : Bool := (s.misfit? "duration_micros").isNone

end Span

end Tracing
