import Tracing.Conversion
import Tracing.Json.Reader
import Tracing.Json.Writer
import Tracing.Fault
import Tracing.Http.Network
/-!
Strategy documents: what a control plane says about sampling. A document is read from JSON under
wire names or field names alike, ignores members it does not know, and is written under wire names
without the members that are left out.
-/

set_option autoImplicit false
set_option relaxedAutoImplicit false

namespace Tracing

/-- The kinds of strategy a document may ask for. -/
inductive StrategyKind where
  | probabilistic
  | rateLimiting
  deriving DecidableEq

def StrategyKind.name : StrategyKind → String
  | probabilistic => "PROBABILISTIC"
  | rateLimiting => "RATE_LIMITING"

/-- Rates for single operations, and what holds for the others. -/
structure OperationParameters where
  defaultRate : Binary64
  defaultLowerBound : Binary64
  operations : List (String × Binary64)
  deriving DecidableEq

/-- A strategy document. -/
structure Strategy where
  kind : Option StrategyKind := none
  probabilistic : Option Binary64 := none
  rateLimiting : Option Binary64 := none
  operations : Option OperationParameters := none
  deriving DecidableEq

namespace Strategy

open Conversion

/-! The names that a member may stand under: the wire name, then the field name. -/

def rateNames : List String := ["samplingRate", "sampling_rate"]

def limitNames : List String := ["maxTracesPerSecond", "max_traces_per_second"]

def operationNames : List String := ["operation"]

def defaultRateNames : List String :=
  ["defaultSamplingProbability", "default_sampling_probability"]

def lowerBoundNames : List String :=
  ["defaultLowerBoundTracesPerSecond", "default_lower_bound_traces_per_second"]

def entryNames : List String := ["perOperationStrategies", "per_operation_strategies"]

def kindNames : List String := ["strategyType", "strategy_type"]

def probabilisticNames : List String := ["probabilisticSampling", "probabilistic_sampling"]

def rateLimitingNames : List String := ["rateLimitingSampling", "rate_limiting_sampling"]

def parameterNames : List String := ["operationSampling", "operation_sampling"]

def rateBounds : List Bound := [.atMost 1, .atLeast 0]

def throughputBounds : List Bound := [.atLeast 0]

def readProbabilistic (medium : Medium) (v : Json) : Checked Binary64 := do
  let ms ← members medium "ProbabilisticSamplingStrategy" v
  required ms rateNames fun v => .ofProblem (real medium rateBounds v)

def readRateLimiting (medium : Medium) (v : Json) : Checked Binary64 := do
  let ms ← members medium "RateLimitingSamplingStrategy" v
  required ms limitNames fun v => .ofProblem (real medium throughputBounds v)

def readOperation (medium : Medium) (v : Json) : Checked (String × Binary64) := do
  let ms ← members medium "PerOperationSamplingParameters" v
  (required ms operationNames fun v => .ofProblem (text v)).both
    (required ms probabilisticNames (readProbabilistic medium))

def readOperations (medium : Medium) (v : Json) : Checked (List (String × Binary64)) := do
  Checked.items (readOperation medium) 0 (← listItems medium v)

def readParameters (medium : Medium) (v : Json) : Checked OperationParameters := do
  let ms ← members medium "OperationSamplingParameters" v
  let rate := required ms defaultRateNames fun v => .ofProblem (real medium rateBounds v)
  let lowerBound := withDefault ms lowerBoundNames (.zero false) fun v =>
    .ofProblem (real medium throughputBounds v)
  let operations := withDefault ms entryNames [] (readOperations medium)
  (rate.both (lowerBound.both operations)).map fun (r, b, os) => ⟨r, b, os⟩

def kinds : List (String × StrategyKind) :=
  [("PROBABILISTIC", .probabilistic), ("RATE_LIMITING", .rateLimiting)]

def ofJson (v : Json) : Checked Strategy := do
  let ms ← members .document "SamplingStrategyResponse" v
  let kind := withDefault ms kindNames none (nullable fun v => .ofProblem (oneOf kinds v))
  let probabilistic := withDefault ms probabilisticNames none
    (nullable (readProbabilistic .document))
  let rateLimiting := withDefault ms rateLimitingNames none
    (nullable (readRateLimiting .document))
  let operations := withDefault ms parameterNames none (nullable (readParameters .document))
  (kind.both (probabilistic.both (rateLimiting.both operations))).map
    fun (k, p, r, o) => ⟨k, p, r, o⟩

def ofPayload (payload : Payload) : Checked Strategy :=
  match payload, payload.chars? with
  | .neither, _ => .error [⟨[], .notADocument⟩]
  | _, none => .error [⟨[], .malformedDocument⟩]
  | _, some cs =>
    match Json.read .document cs with
    | .ok v => ofJson v
    | .error _ => .error [⟨[], .malformedDocument⟩]

/-- Reads the text of a document that a service asked for. -/
def parse (payload : Payload) (service : Json) : Except Failure Strategy :=
  (ofPayload payload).mapError fun violations => .document violations service

def operationJson (operation : String × Binary64) : Json :=
  .object [("operation", .text operation.1),
    ("probabilisticSampling", .object [("samplingRate", .real operation.2)])]

def parametersJson (p : OperationParameters) : Json :=
  .object [("defaultSamplingProbability", .real p.defaultRate),
    ("defaultLowerBoundTracesPerSecond", .real p.defaultLowerBound),
    ("perOperationStrategies", .array (p.operations.map operationJson))]

def optionalMember {α : Type} (name : String) (write : α → Json) :
    Option α → List (String × Json)
  | none => []
  | some a => [(name, write a)]

def toJson (s : Strategy) : Json :=
  .object (
    optionalMember "strategyType" (fun k => .text k.name) s.kind ++
    optionalMember "probabilisticSampling" (fun r => .object [("samplingRate", .real r)])
      s.probabilistic ++
    optionalMember "rateLimitingSampling" (fun r => .object [("maxTracesPerSecond", .real r)])
      s.rateLimiting ++
    optionalMember "operationSampling" parametersJson s.operations)

def named (name : String) (v : Json) : Json := .object [(name, v)]

def orNull {α : Type} (write : α → Json) : Option α → Json
  | none => .null
  | some a => write a

def operationFields (operation : String × Binary64) : Json :=
  .object [("operation", .text operation.1),
    ("probabilistic_sampling", named "sampling_rate" (.real operation.2))]

def parameterFields (p : OperationParameters) : Json :=
  .object [("default_sampling_probability", .real p.defaultRate),
    ("default_lower_bound_traces_per_second", .real p.defaultLowerBound),
    ("per_operation_strategies", .array (p.operations.map operationFields))]

/-- A document under field names, with null for what is left out. -/
def fields (s : Strategy) : Json :=
  .object [
    ("strategy_type", orNull (fun k => .text k.name) s.kind),
    ("probabilistic_sampling", orNull (fun r => named "sampling_rate" (.real r)) s.probabilistic),
    ("rate_limiting_sampling", orNull (fun r => named "max_traces_per_second" (.real r))
      s.rateLimiting),
    ("operation_sampling", orNull parameterFields s.operations)]

def render (s : Strategy) : String := s.toJson.render .document

end Strategy

end Tracing
