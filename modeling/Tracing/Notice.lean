import Tracing.Span
/-!
What the tracer logs. Each event is a value with its data; level, text and fields are read off it
in one place.
-/

set_option autoImplicit false
set_option relaxedAutoImplicit false

namespace Tracing

/-- How grave an event is. -/
inductive Level where
  | debug
  | info
  | warning
  | error
  deriving DecidableEq

def Level.name : Level → String
  | debug => "debug"
  | info => "info"
  | warning => "warning"
  | error => "error"

/-- The commands of a delivery worker. -/
inductive CommandKind where
  | append
  | flush
  | close
  deriving DecidableEq

def CommandKind.name : CommandKind → String
  | append => "append"
  | flush => "flush"
  | close => "close"

/-- A logged event. -/
inductive Notice where
  | capReached (maxOperations : Number) (operation : String)
  | fetchFailed (service : Json) (error : String)
  | fetchRaised (service : Json)
  | pollFailed (service : Json)
  | noStrategy (service : Json)
  | samplerReplaced (service : Json) (previous sampler : String)
  | operationsUpdated (service : Json) (sampler : String)
  | batchSent (spans : Nat) (sender : String)
  | queueFull (maxQueueSize : Number)
  | drainTimedOut (timeout : Binary64) (queueLength : Nat)
  | queueDropped (dropped : Nat)
  | senderCloseFailed (error : String)
  | senderCloseRaised
  | commandFailed (command : CommandKind) (dropped : Int) (error : String)
  | commandRaised (command : CommandKind) (dropped : Int)
  | commandRecovered (command : CommandKind)
  | spanReported (traceId spanId : String) (operation durationMicros : Json)
  | pipelineClosing (service : Json)
  | metricRegistered (name : String) (labels : List String)
  | taskFailed (task : Json)

namespace Notice

def level : Notice → Level
  | batchSent .. | metricRegistered .. => .debug
  | capReached .. | samplerReplaced .. | operationsUpdated .. | commandRecovered .. |
    spanReported .. | pipelineClosing .. => .info
  | fetchFailed .. | queueFull .. | drainTimedOut .. | queueDropped .. | senderCloseFailed .. |
    commandFailed .. => .warning
  | fetchRaised .. | pollFailed .. | noStrategy .. | senderCloseRaised | commandRaised .. |
    taskFailed .. => .error

def event : Notice → String
  | capReached .. => "Exceeded the maximum number of operations for per-operation sampling"
  | fetchFailed .. => "Failed to fetch sampling strategy"
  | fetchRaised .. => "Sampling manager raised unexpectedly"
  | pollFailed .. => "Failed to update sampler"
  | noStrategy .. => "No strategy present in response, not updating sampler"
  | samplerReplaced .. => "Sampler updated"
  | operationsUpdated .. => "Per-operation sampler updated"
  | batchSent .. => "Batch sent"
  | queueFull .. => "Unable to cleanly close RemoteReporter, command queue is full"
  | drainTimedOut .. => "RemoteReporter did not drain its queue in time"
  | queueDropped .. => "Dropped queued spans on close"
  | senderCloseFailed .. => "Failed to close sender"
  | senderCloseRaised => "Failed to close sender"
  | commandFailed .. => "RemoteReporter command failed"
  | commandRaised .. => "RemoteReporter command raised unexpectedly"
  | commandRecovered .. => "RemoteReporter command is working again"
  | spanReported .. => "Span reported"
  | pipelineClosing .. => "Closing tracing pipeline"
  | metricRegistered .. => "Prometheus metric registered"
  | taskFailed .. => "Periodic task failed"

/-- The data of an event under the names they are logged by. -/
def fields : Notice → Tags
  | capReached limit operation =>
    [("max_operations", .ofNumber limit), ("operation", .text operation)]
  | fetchFailed service error => [("service_name", service), ("error", .text error)]
  | fetchRaised service => [("service_name", service)]
  | pollFailed service => [("service_name", service)]
  | noStrategy service => [("service_name", service)]
  | samplerReplaced service previous sampler =>
    [("service_name", service), ("previous", .text previous), ("sampler", .text sampler)]
  | operationsUpdated service sampler =>
    [("service_name", service), ("sampler", .text sampler)]
  | batchSent spans sender => [("spans", .integer spans), ("sender", .text sender)]
  | queueFull size => [("max_queue_size", .ofNumber size)]
  | drainTimedOut timeout length =>
    [("close_drain_timeout", .real timeout), ("queue_length", .integer length)]
  | queueDropped dropped => [("dropped", .integer dropped)]
  | senderCloseFailed error => [("error", .text error)]
  | senderCloseRaised => []
  | commandFailed command dropped error =>
    [("command", .text command.name), ("dropped", .integer dropped), ("error", .text error)]
  | commandRaised command dropped =>
    [("command", .text command.name), ("dropped", .integer dropped)]
  | commandRecovered command => [("command", .text command.name)]
  | spanReported traceId spanId operation duration =>
    [("trace_id", .text traceId), ("span_id", .text spanId), ("operation", operation),
      ("duration_micros", duration)]
  | pipelineClosing service => [("service_name", service)]
  | metricRegistered name labels =>
    [("name", .text name), ("labels", .array (labels.map .text))]
  | taskFailed task => [("task", task)]

def toJson (n : Notice) : Json :=
  .object [("level", .text n.level.name), ("event", .text n.event), ("fields", .object n.fields)]

end Notice

end Tracing
