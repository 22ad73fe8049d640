import Tracing.Metrics.Name
/-!
The instruments of the tracer, each with the name, tags and purpose under which it is published.
-/

set_option autoImplicit false
set_option relaxedAutoImplicit false

namespace Tracing.Metrics

/-- The instruments that sampling and delivery move. -/
inductive Instrument where
  | startedSampled
  | startedNotSampled
  | reporterSuccess
  | reporterFailure
  | reporterDropped
  | reporterQueueLength
  | samplerRetrieved
  | samplerQueryFailure
  | samplerUpdated
  | samplerParsingFailure
  | filteredSpans
  | deferredStarted
  | deferredSent
  | deferredDropped
  | deferredPending
  deriving DecidableEq

/-- Whether an instrument only goes up or shows the latest value. -/
inductive InstrumentKind where
  | counter
  | gauge
  deriving DecidableEq

def InstrumentKind.name : InstrumentKind → String
  | counter => "counter"
  | gauge => "gauge"

/-- How an instrument is published. -/
structure InstrumentDefinition where
  label : String
  name : String
  kind : InstrumentKind
  description : String
  tags : List (String × String) := []

namespace Instrument

/-- Every instrument, in the order of publication. -/
def all : List Instrument :=
  [startedSampled, startedNotSampled, reporterSuccess, reporterFailure, reporterDropped,
    reporterQueueLength, samplerRetrieved, samplerQueryFailure, samplerUpdated,
    samplerParsingFailure, filteredSpans, deferredStarted, deferredSent, deferredDropped,
    deferredPending]

def definition : Instrument → InstrumentDefinition
  | startedSampled => ⟨"spans_started_sampled", "started_spans", .counter,
      "Number of sampled spans started", [("sampled", "y")]⟩
  | startedNotSampled => ⟨"spans_started_not_sampled", "started_spans", .counter,
      "Number of unsampled spans started", [("sampled", "n")]⟩
  | reporterSuccess => ⟨"reporter_success", "reporter_spans", .counter,
      "Number of spans successfully reported", [("result", "ok")]⟩
  | reporterFailure => ⟨"reporter_failure", "reporter_spans", .counter,
      "Number of spans not reported due to a sender failure", [("result", "err")]⟩
  | reporterDropped => ⟨"reporter_dropped", "reporter_spans", .counter,
      "Number of spans dropped due to internal queue overflow", [("result", "dropped")]⟩
  | reporterQueueLength => ⟨"reporter_queue_length", "reporter_queue_length", .gauge,
      "Current number of spans in the reporter queue", []⟩
  | samplerRetrieved => ⟨"sampler_retrieved", "sampler_queries", .counter,
      "Number of times the sampler retrieved a sampling strategy", [("result", "ok")]⟩
  | samplerQueryFailure => ⟨"sampler_query_failure", "sampler_queries", .counter,
      "Number of times the sampler failed to retrieve a sampling strategy", [("result", "err")]⟩
  | samplerUpdated => ⟨"sampler_updated", "sampler_updates", .counter,
      "Number of times the sampler was updated from a retrieved strategy", [("result", "ok")]⟩
  | samplerParsingFailure => ⟨"sampler_parsing_failure", "sampler_updates", .counter,
      "Number of retrieved strategies that could not be applied", [("result", "err")]⟩
  | filteredSpans => ⟨"filtered_spans", "filtered_spans", .counter,
      "Number of spans dropped for being shorter than the filter threshold", []⟩
  | deferredStarted => ⟨"deferred_spans_started", "deferred_spans", .counter,
      "Number of spans deferred until their parent is reported", [("state", "started")]⟩
  | deferredSent => ⟨"deferred_spans_sent", "deferred_spans", .counter,
      "Number of deferred spans forwarded with their parent", [("state", "sent")]⟩
  | deferredDropped => ⟨"deferred_spans_dropped", "deferred_spans", .counter,
      "Number of deferred spans dropped", [("state", "dropped")]⟩
  | deferredPending => ⟨"deferred_spans_pending", "deferred_spans_pending", .gauge,
      "Current number of deferred spans", []⟩

def tags (i : Instrument) : Tags := i.definition.tags.map fun (k, v) => (k, .text v)

def toJson (i : Instrument) : Json :=
  let d := i.definition
  .object [("attribute", .text d.label), ("name", .text d.name), ("type", .text d.kind.name),
    ("description", .text d.description), ("tags", .object i.tags)]

def key (pre : String) (i : Instrument) : String := flatten (pre ++ i.definition.name) i.tags

def ofLabel? (label : String) : Option Instrument :=
  all.find? fun i => i.definition.label = label

def actionOfJson? : Json → Option (Instrument × Json)
  | .array [.text label, amount] => (ofLabel? label).map (·, amount)
  | _ => none

end Instrument

/-- The text in front of every metric name, unless another is chosen. -/
def defaultPrefix : String := "tracegate_tracer_"

end Tracing.Metrics
