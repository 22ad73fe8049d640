import Tracing.Specification.Network
import Tracing.Delivery.Reporter
/-!
Descriptions of senders and reporters as values, and senders and reporters built from them.
-/

set_option autoImplicit false
set_option relaxedAutoImplicit false

namespace Tracing.Specification

def failure (j : Json) : ScriptedFailure :=
  match j.textOr "kind" "sender" with
  | "runtime" => .broken (j.textOr "message" "collector down")
  | _ => .refused (j.intOr "dropped" 0) (j.textOr "message" "send failed")

/-- The outcome of a batch: anything but a described failure is a success. -/
def outcome : Json → Option ScriptedFailure
  | .object ms => some (failure (.object ms))
  | _ => none

/-- Seconds that a request of a sender may take, unless said otherwise. -/
def standardTimeout : Json := .real (.ofNat 5)

def sender (j : Json) : Except Fault Sender :=
  let size := (j.fieldOr "max_batch_size" (.integer Sender.standardBatchSize)).number
  match j.textOr "kind" "" with
  | "http" =>
    size.bind fun size =>
      Sender.create size (.http (j.field "endpoint") (j.field "auth_token")
        (j.fieldOr "timeout" standardTimeout) { owned := !j.flagOr "inject_client" false })
  | "scripted" =>
    let refusals := (j.membersOf "append_errors").map fun (name, f) => (name, failure f)
    size.bind fun size =>
      Sender.create size (.scripted ((j.itemsOf "results").map outcome) [])
        (some { refusals, closing := outcome (j.field "close_error") })
  | _ => .ok .noop

def remoteReporter (j : Json) : Except Fault RemoteReporter := do
  let sender ←
    match j.field "sender" with
    | .null => .ok .noop
    | spec => sender spec
  let size ← (j.fieldOr "max_queue_size" (.integer RemoteReporter.standardMaxQueueSize)).number
  RemoteReporter.create {
    sender
    flushInterval := anHour
    maxQueueSize := size
    closeEnqueueTimeout := RemoteReporter.standardEnqueueTimeout
    closeDrainTimeout := RemoteReporter.standardDrainTimeout
    metered := j.flagOr "metrics" true }

/-- The reporter of a description that nests at most so many levels deep. -/
def reporterWithin : Nat → Json → Except Fault Reporter
  | 0, _ => .error .wrongType
  | depth + 1, j =>
    match j.textOr "kind" "" with
    | "memory" => .ok (.memory (watch j) [])
    | "logging" => .ok (.logging (watch j))
    | "composite" =>
      ((j.itemsOf "reporters").mapM (reporterWithin depth)).map (.composite (watch j))
    | "filtering" =>
      let filter := Filter.ofJson (j.fieldOr "filter" (.integer 0)) (j.fieldOr "defer" (.integer 0))
        (j.flagOr "metrics" true)
      (reporterWithin depth (j.field "delegate")).map (.filtering (watch j) filter)
    | "remote" => (remoteReporter j).map (.remote (watch j))
    | _ => .error .wrongType

def reporter (j : Json) : Except Fault Reporter := reporterWithin j.depth j

end Tracing.Specification
