import Tracing.Sampling.OperationTable
import Tracing.Sampling.Source
/-!
Samplers of all kinds. A remote sampler hands every question to a delegate; only its poller
replaces the delegate.
-/

set_option autoImplicit false
set_option relaxedAutoImplicit false

namespace Tracing

/-- What a remote sampler holds besides its delegate. -/
structure RemoteControl where
  service : Json
  source : StrategySource
  ownsSource : Bool
  maxOperations : Json
  pollingInterval : Number
  metered : Bool
  closed : Bool := false
  pollerCancelled : Bool := false
  /-- How many delegates were replaced so far; it names the delegate in force. -/
  generation : Nat := 0

/-- A sampler. -/
inductive Sampler where
  | const (decision : Bool)
  | probabilistic (rate : Rate)
  | rateLimiting (throughput : Throughput)
  | guaranteed (g : Guaranteed)
  | perOperation (table : OperationTable)
  | remote (control : RemoteControl) (watch : Watch) (delegate : Sampler)

namespace Sampler

def kind : Sampler → SamplerKind
  | const _ => .const
  | probabilistic _ => .probabilistic
  | rateLimiting _ => .rateLimiting
  | guaranteed _ => .lowerBound
  | perOperation _ => .perOperation
  | remote .. => .remote

def displayName : Sampler → String
  | const _ => "ConstSampler"
  | probabilistic _ => "ProbabilisticSampler"
  | rateLimiting _ => "RateLimitingSampler"
  | guaranteed _ => "GuaranteedThroughputSampler"
  | perOperation _ => "PerOperationSampler"
  | remote .. => "RemoteControlledSampler"

def description : Sampler → String
  | const decision => s!"ConstSampler(decision={(Number.truth decision).text})"
  | probabilistic rate => rate.description
  | rateLimiting t => t.description
  | guaranteed g => g.description
  | perOperation t => t.description
  | remote control _ delegate =>
    s!"RemoteControlledSampler(service_name={control.service.shown}, " ++
      s!"sampler={delegate.description})"

/-- The decision on a trace of an operation, and the sampler after it. -/
def sample (now : Number) (operation : String) (traceId : Int) :
    Sampler → Except Fault (SamplingStatus × Sampler)
  | const decision => .ok (.signed .const (.truth decision) decision, const decision)
  | probabilistic rate => .ok (rate.sample traceId, probabilistic rate)
  | rateLimiting t => (t.sample now).map fun (status, t) => (status, rateLimiting t)
  | guaranteed g => (g.sample now traceId).map fun (status, g) => (status, guaranteed g)
  | perOperation t =>
    (t.sample now operation traceId).map fun (status, t) => (status, perOperation t)
  | remote control watch delegate =>
    (delegate.sample now operation traceId).map fun (status, delegate) =>
      (status, remote control watch delegate)

/-- The decision on a trace whose identifier is no integer. Samplers that do not look at it decide
as always; the others refuse, a table after the operation has entered it. -/
def sampleUnidentified (now : Number) (operation : String) :
    Sampler → Except Fault SamplingStatus × Sampler
  | const decision => (.ok (.signed .const (.truth decision) decision), const decision)
  | rateLimiting t =>
    match t.sample now with
    | .ok (status, t) => (.ok status, rateLimiting t)
    | .error f => (.error f, rateLimiting t)
  | perOperation t => (.error .wrongType, perOperation (t.enroll now operation))
  | remote control watch delegate =>
    let (result, delegate) := delegate.sampleUnidentified now operation
    (result, remote control watch delegate)
  | s => (.error .wrongType, s)

def isByOperation : Sampler → Bool
  | perOperation _ => true
  | remote _ _ delegate => delegate.isByOperation
  | _ => false

/-- The decision on a trace whose identifier and operation are any values. What is no text names an
operation by the way it is shown, unless it can be no name at all. -/
def sampleGiven (s : Sampler) (now : Number) (operation traceId : Json) :
    Except Fault SamplingStatus × Sampler :=
  if s.isByOperation && !operation.isKey then (.error .wrongType, s) else
  let name := operation.plain
  match traceId.whole with
  | .error _ => s.sampleUnidentified now name
  | .ok id =>
    match s.sample now name id with
    | .ok (status, s) => (.ok status, s)
    | .error f => (.error f, s)

/-- Closes a sampler that is watched. A recorded closing that fails does nothing else; the closing
of a remote sampler closes its delegate and, unless that fails, the source it owns, once. -/
def close (watch : Watch) (h : Host) : Sampler → Option Fault × Sampler × Host
  | remote control delegateWatch delegate =>
    let h := watch.record h
    match watch.fault? with
    | some f => (some f, remote control delegateWatch delegate, h)
    | none =>
      if control.closed then (none, remote control delegateWatch delegate, h) else
      let control := { control with closed := true, pollerCancelled := true }
      let (fault, delegate, h) := delegate.close delegateWatch h
      match fault with
      | some f => (some f, remote control delegateWatch delegate, h)
      | none =>
        let source := if control.ownsSource then control.source.close else control.source
        (none, remote { control with source } delegateWatch delegate, h)
  | s => (watch.fault?, s, watch.record h)

/-- Whether two samplers decide alike: they are of one kind and their parameters are equal, in a
table in any order; of remote samplers the delegates count. Credits do not count. -/
def beq : Sampler → Sampler → Bool
  | const a, const b => a == b
  | probabilistic a, probabilistic b => a.value.eq b.value
  | rateLimiting a, rateLimiting b => a.limit.eq b.limit
  | guaranteed a, guaranteed b => a.rate.value.eq b.rate.value && a.floor.limit.eq b.floor.limit
  | perOperation a, perOperation b =>
    a.maxOperations.eq b.maxOperations && a.defaultRate.value.eq b.defaultRate.value &&
      a.lowerBound.eq b.lowerBound && a.entries.length == b.entries.length &&
      a.entries.all fun (name, g) =>
        match OperationTable.find? name b.entries with
        | some g' => g.rate.value.eq g'.rate.value && g.floor.limit.eq g'.floor.limit
        | none => false
  | remote _ _ a, remote _ _ b => a.beq b
  | _, _ => false

/-- What a sampler says when it is asked whether it equals another: nothing of one of another kind.
Of the samplers within two remote ones the first is asked, then the second. -/
def opinion? : Sampler → Sampler → Option Bool
  | remote _ _ a, remote _ _ b => some (((opinion? a b).or (opinion? b a)).getD false)
  | a, b => if a.kind = b.kind then some (a.beq b) else none
termination_by a b => sizeOf a + sizeOf b

/-- Whether two samplers are equal, by what either says: unequal if neither says anything. -/
def agrees (a b : Sampler) : Bool := ((opinion? a b).or (opinion? b a)).getD false

/-- Whether two samplers are unequal, by the contrary of what either says. -/
def differs (a b : Sampler) : Bool :=
  (((opinion? a b).map not).or ((opinion? b a).map not)).getD true

instance : BEq Sampler := ⟨beq⟩

def operationState (entry : String × Guaranteed) : Json :=
  let g := entry.2
  .array [.text entry.1, .real g.rate.value, .real g.floor.limit, .real g.floor.bucket.balance]

def commonState (s : Sampler) : List (String × Json) :=
  [("type", .text s.kind.tag), ("class", .text s.displayName), ("description", .text s.description),
    ("repr", .text s.description)]

/-- What can be seen of a sampler; balances are those of the last question. -/
def state : Sampler → Json
  | remote control watch delegate =>
    .object ((remote control watch delegate).commonState ++ [
      ("delegate", delegate.state), ("service", control.service),
      ("max_operations", control.maxOperations),
      ("polling_interval", .ofNumber control.pollingInterval),
      ("poller_cancelled", .truth control.pollerCancelled), ("manager", control.source.state)])
  | const decision => .object ((const decision).commonState ++ [("decision", .truth decision)])
  | probabilistic rate => .object ((probabilistic rate).commonState ++ [("rate", .real rate.value)])
  | rateLimiting t =>
    .object ((rateLimiting t).commonState ++
      [("rate", .real t.limit), ("balance", .real t.bucket.balance)])
  | guaranteed g =>
    .object ((guaranteed g).commonState ++ [("rate", .real g.rate.value),
      ("lower_bound", .real g.floor.limit), ("balance", .real g.floor.bucket.balance)])
  | perOperation t =>
    .object ((perOperation t).commonState ++ [("default", .real t.defaultRate.value),
      ("lower_bound", .real t.lowerBound), ("max_operations", .ofNumber t.maxOperations),
      ("operations", .array (t.sortedEntries.map operationState))])

/-- What a sampler is filed under: equal samplers have equal keys. Samplers that change in place
have none. -/
def hashKey? : Sampler → Option (SamplerKind × List (Option Extended))
  | const decision => some (.const, [some (.value (if decision then 1 else 0))])
  | probabilistic rate => some (.probabilistic, [rate.value.extended?])
  | rateLimiting t => some (.rateLimiting, [t.limit.extended?])
  | guaranteed g => some (.lowerBound, [g.rate.value.extended?, g.floor.limit.extended?])
  | perOperation _ => none
  | remote .. => none

end Sampler

end Tracing
