import Tracing.Conversion
import Tracing.Delivery.Reporter
/-!
Settings of the reporter: the queue, the sender, and the filter and log in front of them.
-/

set_option autoImplicit false
set_option relaxedAutoImplicit false

namespace Tracing

/-- Settings of the reporter. A threshold of zero filters nothing. -/
structure ReporterSettings where
  logSpans : Bool := false
  flushInterval : Binary64 := RemoteReporter.standardFlushInterval
  maxQueueSize : Int := RemoteReporter.standardMaxQueueSize
  closeEnqueueTimeout : Binary64 := RemoteReporter.standardEnqueueTimeout
  closeDrainTimeout : Binary64 := RemoteReporter.standardDrainTimeout
  endpoint : Option String := none
  authToken : Option String := none
  maxBatchSize : Int := Sender.standardBatchSize
  httpTimeout : Binary64 := .ofNat 5
  filterBelow : Int := 0
  deferBelow : Int := 0
  deriving DecidableEq

namespace ReporterSettings

open Conversion

/-- Reads settings of the reporter; members that are not known are ignored. -/
def ofJson (v : Json) : Checked ReporterSettings := do
  let ms ← members .memory "ReporterConfig" v
  let standard : ReporterSettings := {}
  let number (name : String) (bound : Bound) (default : Binary64) : Checked Binary64 :=
    withDefault ms [name] default fun v => .ofProblem (real .memory [bound] v)
  let count (name : String) (bound : Bound) (default : Int) : Checked Int :=
    withDefault ms [name] default fun v => .ofProblem (integer [bound] v)
  let word (name : String) : Checked (Option String) :=
    withDefault ms [name] none fun v => .ofProblem (optionalText v)
  let logSpans := withDefault ms ["log_spans"] standard.logSpans fun v => .ofProblem (boolean v)
  let interval := number "flush_interval" (.above 0) standard.flushInterval
  let queueSize := count "max_queue_size" (.above 0) standard.maxQueueSize
  let enqueue := number "close_enqueue_timeout" (.atLeast 0) standard.closeEnqueueTimeout
  let drain := number "close_drain_timeout" (.atLeast 0) standard.closeDrainTimeout
  let endpoint := word "endpoint"
  let token := word "auth_token"
  let batchSize := count "max_batch_size" (.above 0) standard.maxBatchSize
  let timeout := number "http_timeout" (.above 0) standard.httpTimeout
  let filterBelow := count "filter_spans_under_micros" (.atLeast 0) standard.filterBelow
  let deferBelow := count "defer_spans_under_micros" (.atLeast 0) standard.deferBelow
  (logSpans.both (interval.both (queueSize.both (enqueue.both (drain.both (endpoint.both
    (token.both (batchSize.both (timeout.both (filterBelow.both deferBelow)))))))))).map
      fun (l, i, q, e, d, p, t, b, o, f, r) => ⟨l, i, q, e, d, p, t, b, o, f, r⟩

def toJson (s : ReporterSettings) : Json :=
  .object [
    ("log_spans", .truth s.logSpans),
    ("flush_interval", .real s.flushInterval),
    ("max_queue_size", .integer s.maxQueueSize),
    ("close_enqueue_timeout", .real s.closeEnqueueTimeout),
    ("close_drain_timeout", .real s.closeDrainTimeout),
    ("endpoint", Sender.optionalJson s.endpoint),
    ("auth_token", Sender.optionalJson s.authToken),
    ("max_batch_size", .integer s.maxBatchSize),
    ("http_timeout", .real s.httpTimeout),
    ("filter_spans_under_micros", .integer s.filterBelow),
    ("defer_spans_under_micros", .integer s.deferBelow)]

/-- Whether two settings are equal, numbers by value. -/
def same (a b : ReporterSettings) : Bool :=
  a.logSpans == b.logSpans && a.flushInterval.eq b.flushInterval &&
    a.maxQueueSize == b.maxQueueSize && a.closeEnqueueTimeout.eq b.closeEnqueueTimeout &&
    a.closeDrainTimeout.eq b.closeDrainTimeout && a.endpoint == b.endpoint &&
    a.authToken == b.authToken && a.maxBatchSize == b.maxBatchSize &&
    a.httpTimeout.eq b.httpTimeout && a.filterBelow == b.filterBelow &&
    a.deferBelow == b.deferBelow

/-- The sender of settings: over the network where there is an endpoint. -/
def createSender (s : ReporterSettings) : Except Fault Sender :=
  match s.endpoint with
  | some endpoint =>
    if endpoint.isEmpty then .ok .noop
    else
      Sender.create (.integer s.maxBatchSize)
        (.http (.text endpoint) (Sender.optionalJson s.authToken) (.real s.httpTimeout)
          { owned := true })
  | none => .ok .noop

/-- The reporters of settings: a queue with a sender, a filter in front of it where a threshold is
set, and beside them a log where spans are logged. -/
def createReporter (s : ReporterSettings) (metered : Bool) (sender : Option Sender) :
    Except Fault Reporter := do
  let sender ←
    match sender with
    | some sender => .ok sender
    | none => s.createSender
  let delivery ← RemoteReporter.create {
    sender
    flushInterval := s.flushInterval
    maxQueueSize := .integer s.maxQueueSize
    closeEnqueueTimeout := s.closeEnqueueTimeout
    closeDrainTimeout := s.closeDrainTimeout
    metered }
  let filter : Filter :=
    { dropBelow := .integer s.filterBelow, deferBelow := .integer s.deferBelow, metered }
  let filtered : Reporter :=
    if s.filterBelow = 0 && s.deferBelow = 0 then .remote {} delivery
    else .filtering {} filter (.remote {} delivery)
  return if s.logSpans then .composite {} [filtered, .logging {}] else filtered

end ReporterSettings

end Tracing
