import Tracing.Specification.Network
import Tracing.Sampling.Remote
/-!
Descriptions of samplers as values, and samplers built from them.
-/

set_option autoImplicit false
set_option relaxedAutoImplicit false

namespace Tracing

/-- A sampler with the watch over its closing. -/
structure WatchedSampler where
  watch : Watch := {}
  sampler : Sampler

namespace Specification

/-- What a scripted source answers, and whether it closes the sampler that asks. -/
def scriptedAnswer (j : Json) : ScriptedAnswer :=
  let reply : ScriptedReply :=
    match j.textAt? "error" with
    | some "runtime" => .broken "bug"
    | some _ => .refused (j.textOr "message" "down") (j.field "service")
    | none => .document (payload (j.field "doc"))
  ⟨reply, j.flagOr "close" false⟩

def source (j : Json) : StrategySource × Bool :=
  let standard := Json.real StrategyAgent.standardTimeout
  match j.textOr "kind" "stub" with
  | "http" => (.agent (.create (j.field "host_port") standard true), true)
  | "default" => (.agent (.create .null standard true), false)
  | _ => (.scripted ((j.itemsOf "responses").map scriptedAnswer) [] 0, true)

def parameters (j : Json) : Except Fault OperationParameters :=
  (Strategy.readParameters .memory j).mapError (.invalidSettings "OperationSamplingParameters")

/-- A remote sampler around a first delegate; it may poll at once. -/
def remoteSampler (j : Json) (first : WatchedSampler) (h : Host) :
    Except Fault WatchedSampler × Host :=
  let (source, passed) := source (j.field "manager")
  let built : Except Fault RemoteSampler := do
    let control : RemoteControl := {
      service := j.fieldOr "service" (.text "checkout")
      source
      ownsSource := if (j.field "owns_manager") matches .null then !passed
        else j.flagOr "owns_manager" false
      maxOperations := j.fieldOr "max_operations" (.integer RemoteSampler.standardMaxOperations)
      pollingInterval := ← (j.fieldOr "polling_interval" (.real anHour)).number
      metered := j.flagOr "metrics" true }
    RemoteSampler.create control first.watch first.sampler
  match built with
  | .error f => (.error f, h)
  | .ok r =>
    let (r, h) := if j.flagOr "eager_poll" false then r.poll (watch j) h else (r, h)
    (.ok ⟨watch j, r.toSampler⟩, h)

def localSampler (j : Json) (now : Number) : Except Fault Sampler × List Notice :=
  let rate := (j.field "rate").number
  match j.textOr "kind" "" with
  | "const" => (.ok (.const (j.field "decision").isPresent), [])
  | "probabilistic" =>
    let rate := (j.fieldOr "rate" (.real Rate.standard.value)).number
    ((rate.bind Rate.create).map .probabilistic, [])
  | "ratelimiting" =>
    ((rate.bind fun rate => Throughput.create rate now).map .rateLimiting, [])
  | "guaranteed" =>
    let built : Except Fault Guaranteed := do
      let rate ← Rate.create (← rate)
      let floor ← Throughput.create (← (j.field "lower_bound").number) now
      return ⟨rate, floor⟩
    (built.map .guaranteed, [])
  | "peroperation" =>
    let read : Except Fault (OperationParameters × Number) := do
      return (← parameters (j.field "params"), ← (j.field "max_operations").number)
    match read with
    | .error f => (.error f, [])
    | .ok (p, maxOperations) =>
      let (table, notices) := OperationTable.create maxOperations p now
      (table.map .perOperation, notices)
  | _ => (.error .wrongType, [])

/-- The sampler of a description that nests at most so many levels deep. -/
def samplerWithin : Nat → Json → Host → Except Fault WatchedSampler × Host
  | 0, _, h => (.error .wrongType, h)
  | depth + 1, j, h =>
    if j.textOr "kind" "" = "remote" then
      let (first, h) : Except Fault WatchedSampler × Host :=
        match j.field "initial" with
        | .null => (.ok ⟨{}, .probabilistic Rate.standard⟩, h)
        | spec => samplerWithin depth spec h
      match first with
      | .error f => (.error f, h)
      | .ok first => remoteSampler j first h
    else
      let (s, notices) := localSampler j h.now
      (s.map (⟨watch j, ·⟩), { h with notices := h.notices ++ notices })

def sampler (j : Json) (h : Host) : Except Fault WatchedSampler × Host :=
  samplerWithin j.depth j h

end Specification

end Tracing
