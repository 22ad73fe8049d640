import Tracing.Sampling.Remote
/-!
Settings of the sampler: which kind is built, and with which numbers.
-/

set_option autoImplicit false
set_option relaxedAutoImplicit false

namespace Tracing

/-- The kinds of sampler that settings can ask for. -/
inductive SamplerChoice where
  | const
  | probabilistic
  | rateLimiting
  | remote
  deriving DecidableEq

namespace SamplerChoice

def named : List (String × SamplerChoice) :=
  [("const", const), ("probabilistic", probabilistic), ("ratelimiting", rateLimiting),
    ("remote", remote)]

def writtenNames : List (String × SamplerChoice) :=
  [("CONST", const), ("PROBABILISTIC", probabilistic), ("RATE_LIMITING", rateLimiting),
    ("REMOTE", remote)]

def name : SamplerChoice → String
  | const => "const"
  | probabilistic => "probabilistic"
  | rateLimiting => "ratelimiting"
  | remote => "remote"

end SamplerChoice

/-- Settings of the sampler. The parameter is a decision, a share or a number of traces per second,
as the choice says. -/
structure SamplerSettings where
  choice : SamplerChoice := .remote
  parameter : Binary64 := Rate.standard.value
  managerHostPort : String := StrategyAgent.standardHostPort
  pollingInterval : Binary64 := .ofNat 60
  maxOperations : Int := RemoteSampler.standardMaxOperations
  httpTimeout : Binary64 := StrategyAgent.standardTimeout
  /-- Whether the parameter was written as a number, not as a text. -/
  parameterIsLiteral : Bool := true
  deriving DecidableEq

namespace SamplerSettings

open Conversion

/-- Whether the parameter among members is written as a number, or left out. -/
def isLiteral (ms : List (String × Json)) : Bool :=
  match Json.lookup "param" ms with
  | some (.real _) | none => true
  | _ => false

/-- Reads settings of the sampler; members that are not known are ignored. -/
def ofJson (v : Json) : Checked SamplerSettings := do
  let ms ← members .memory "SamplerConfig" v
  let standard : SamplerSettings := {}
  let positive (v : Json) : Checked Binary64 := .ofProblem (real .memory [.above 0] v)
  let choice := withDefault ms ["type"] standard.choice
    fun v => .ofProblem (oneOf SamplerChoice.named v)
  let parameter := withDefault ms ["param"] standard.parameter
    fun v => .ofProblem (real .memory [] v)
  let place := withDefault ms ["manager_host_port"] standard.managerHostPort
    fun v => .ofProblem (text v)
  let interval := withDefault ms ["polling_interval"] standard.pollingInterval positive
  let operations := withDefault ms ["max_operations"] standard.maxOperations
    fun v => .ofProblem (integer [.above 0] v)
  let timeout := withDefault ms ["http_timeout"] standard.httpTimeout positive
  (choice.both (parameter.both (place.both (interval.both (operations.both timeout))))).map
    fun (c, p, m, i, o, t) => ⟨c, p, m, i, o, t, isLiteral ms⟩

def toJson (s : SamplerSettings) : Json :=
  .object [
    ("type", .text s.choice.name),
    ("param", .real s.parameter),
    ("manager_host_port", .text s.managerHostPort),
    ("polling_interval", .real s.pollingInterval),
    ("max_operations", .integer s.maxOperations),
    ("http_timeout", .real s.httpTimeout)]

/-- Whether two parameters are equal. What is not a number equals itself only where a document
writes it as such. -/
def sameParameter (a b : SamplerSettings) : Bool :=
  a.parameter.eq b.parameter ||
    (a.parameter.isNaN && b.parameter.isNaN && a.parameterIsLiteral && b.parameterIsLiteral)

def same (a b : SamplerSettings) : Bool :=
  a.choice == b.choice && a.sameParameter b && a.managerHostPort == b.managerHostPort &&
    a.pollingInterval.eq b.pollingInterval && a.maxOperations == b.maxOperations &&
    a.httpTimeout.eq b.httpTimeout

def createRemote (s : SamplerSettings) (service : Json) (metered : Bool) :
    Except Fault RemoteSampler := do
  let agent := StrategyAgent.create (.text s.managerHostPort) (.real s.httpTimeout) true
  let rate ← Rate.create (.real s.parameter)
  RemoteSampler.create {
    service
    source := .agent agent
    ownsSource := true
    maxOperations := .integer s.maxOperations
    pollingInterval := .real s.pollingInterval
    metered } {} (.probabilistic rate)

/-- The sampler of settings; a remote one polls once. -/
def createSampler (s : SamplerSettings) (service : Json) (metered : Bool) (h : Host) :
    Except Fault Sampler × Host :=
  match s.choice with
  | .const => (.ok (.const (Number.real s.parameter).isNonzero), h)
  | .probabilistic => ((Rate.create (.real s.parameter)).map .probabilistic, h)
  | .rateLimiting => ((Throughput.create (.real s.parameter) h.now).map .rateLimiting, h)
  | .remote =>
    match s.createRemote service metered with
    | .error f => (.error f, h)
    | .ok r =>
      let (r, h) := r.poll {} h
      (.ok r.toSampler, h)

def createNamed (s : SamplerSettings) (name : String) (service : Json) (metered : Bool) (h : Host) :
    Except Fault Sampler × Host :=
  match SamplerChoice.named.find? fun (n, _) => n = name with
  | some (_, choice) => { s with choice }.createSampler service metered h
  | none =>
    (.error (.failure (.configuration ("Invalid sampling strategy " ++ name) [] none)), h)

end SamplerSettings

end Tracing
