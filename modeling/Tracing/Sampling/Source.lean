import Tracing.Sampling.Strategy
import Tracing.Host
/-!
Sources of strategy documents: the local agent, asked over the network, or a script of replies.
-/

set_option autoImplicit false
set_option relaxedAutoImplicit false

namespace Tracing

/-- What a scripted source does when asked. -/
inductive ScriptedReply where
  | document (text : Payload)
  | refused (message : String) (service : Json)
  | broken (text : String)

/-- A scripted reply, and whether the sampler that asks is closed before it comes. -/
structure ScriptedAnswer where
  reply : ScriptedReply
  closesFirst : Bool := false

/-- The local agent. -/
structure StrategyAgent where
  hostPort : Json
  timeout : Json
  client : Http.Client

namespace StrategyAgent

/-- Where the agent is, unless said otherwise. -/
def standardHostPort : String := "localhost:5778"

/-- How many seconds a request may take, unless said otherwise. -/
def standardTimeout : Binary64 := .ofNat 5

/-- An agent at a place; no place and an empty one mean the standard one. -/
def create (hostPort timeout : Json) (owned : Bool) : StrategyAgent :=
  ⟨if hostPort.isPresent then hostPort else .text standardHostPort, timeout, { owned }⟩

def url (a : StrategyAgent) : String := s!"http://{a.hostPort.plain}/"

/-- Asks for the strategy of a service. Failures of the exchange and of the document are failures
of the strategy; whatever else goes wrong stays what it is. -/
def fetch (a : StrategyAgent) (service : Json) (net : Http.Network) :
    Except Fault Strategy × Http.Network :=
  let (answer, net) := a.client.get net a.url "service" service
  let result :=
    match answer with
    | .ok body => (Strategy.parse body service).mapError .failure
    | .error cause =>
      if cause.isExchange then .error (.failure (.unreachableAgent service cause))
      else .error (.request cause)
  (result, net)

def close (a : StrategyAgent) : StrategyAgent := { a with client := a.client.close }

def description (a : StrategyAgent) : String :=
  s!"HttpSamplingManager(host_port={a.hostPort.shown})"

def state (a : StrategyAgent) : List (String × Json) :=
  [("repr", .text a.description), ("timeout", a.timeout),
    ("client_closed", .truth a.client.closed)]

end StrategyAgent

def ScriptedReply.strategy : ScriptedReply → Except Fault Strategy
  | .document text => (Strategy.parse text .null).mapError .failure
  | .refused message service => .error (.failure (.strategy message service none))
  | .broken text => .error (.raised text)

/-- A source of strategy documents. -/
inductive StrategySource where
  | scripted (answers : List ScriptedAnswer) (asked : List Json) (closed : Nat)
  | agent (a : StrategyAgent)

namespace StrategySource

/-- Whether the sampler that asks is closed before the next reply comes. -/
def closesFirst (source : StrategySource) : Bool :=
  match source with
  | .scripted answers .. => ((Http.takeNext answers).map fun (a, _) => a.closesFirst).getD false
  | .agent _ => false

def fetch (source : StrategySource) (service : Json) (net : Http.Network) :
    Except Fault Strategy × StrategySource × Http.Network :=
  match source with
  | .scripted answers asked closed =>
    match Http.takeNext answers with
    | none =>
      (.error (.failure (.strategy "no response queued" service none)),
        .scripted answers (asked ++ [service]) closed, net)
    | some (a, rest) =>
      (ScriptedReply.strategy a.reply, .scripted rest (asked ++ [service]) closed, net)
  | .agent a =>
    let (result, net) := a.fetch service net
    (result, .agent a, net)

def close : StrategySource → StrategySource
  | .scripted answers asked closed => .scripted answers asked (closed + 1)
  | .agent a => .agent a.close

def state : StrategySource → Json
  | .scripted _ asked closed =>
    .object [("services", .array asked), ("closed", .integer closed)]
  | .agent a => .object a.state

end StrategySource

end Tracing
