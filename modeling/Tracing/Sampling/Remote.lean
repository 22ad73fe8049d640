import Tracing.Sampling.Sampler
import Tracing.Schedule
/-!
Remote samplers: one poll fetches the strategy of the service and applies it to the delegate. A poll
that brings nothing new leaves the delegate and all its credits alone.
-/

set_option autoImplicit false
set_option relaxedAutoImplicit false

namespace Tracing

/-- A sampler whose delegate follows a source of strategies. -/
structure RemoteSampler where
  control : RemoteControl
  watch : Watch := {}
  delegate : Sampler

/-- The sampler that a strategy without rates by operation asks for. -/
def Strategy.sampler? (s : Strategy) (now : Number) : Except Fault (Option Sampler) :=
  let limited (limit : Binary64) : Except Fault (Option Sampler) :=
    (Throughput.create (.real limit) now).map fun t => some (.rateLimiting t)
  match s.kind, s.probabilistic, s.rateLimiting with
  | some .rateLimiting, _, some limit => limited limit
  | _, some rate, _ => (Rate.create (.real rate)).map fun r => some (.probabilistic r)
  | _, none, some limit => limited limit
  | _, none, none => .ok none

namespace RemoteSampler

def toSampler (r : RemoteSampler) : Sampler := .remote r.control r.watch r.delegate

def ofSampler? : Sampler → Option RemoteSampler
  | .remote control watch delegate => some ⟨control, watch, delegate⟩
  | _ => none

/-- How many operations are kept apart, unless said otherwise. -/
def standardMaxOperations : Int := 2000

def create (control : RemoteControl) (watch : Watch) (delegate : Sampler) :
    Except Fault RemoteSampler :=
  if control.pollingInterval.le (.integer 0) then
    .error (.invalidValue PeriodicTask.intervalMessage)
  else .ok ⟨control, watch, delegate⟩

def close (own : Watch) (r : RemoteSampler) (h : Host) : Option Fault × RemoteSampler × Host :=
  let (fault, s, h) := r.toSampler.close own h
  (fault, (ofSampler? s).getD r, h)

/-- Puts another delegate in place and closes the one before. A closed sampler closes the new
delegate instead and stays as it is. -/
def replace (r : RemoteSampler) (watch : Watch) (s : Sampler) (h : Host) :
    Option Fault × RemoteSampler × Host :=
  if r.control.closed then
    let (fault, _, h) := s.close watch h
    (fault, r, h)
  else
    let control := { r.control with generation := r.control.generation + 1 }
    let h := h.count control.metered .samplerUpdated 1
    let h := h.log (.samplerReplaced control.service r.delegate.description s.description)
    let (fault, _, h) := r.delegate.close r.watch h
    (fault, ⟨control, watch, s⟩, h)

/-- Asks the source. A source may close the sampler before it replies; a closing that fails is then
all there is to hear. -/
def ask (own : Watch) (r : RemoteSampler) (h : Host) :
    Except Fault Strategy × RemoteSampler × Host :=
  let closes := r.control.source.closesFirst
  let (reply, source, network) := r.control.source.fetch r.control.service h.network
  let r := { r with control := { r.control with source } }
  let h := { h with network }
  if closes then
    match r.close own h with
    | (some f, r, h) => (.error f, r, h)
    | (none, r, h) => (reply, r, h)
  else (reply, r, h)

def fetchNotice (service : Json) : Fault → Notice
  | .failure f => if f.isStrategy then .fetchFailed service f.text else .fetchRaised service
  | _ => .fetchRaised service

def heed (r : RemoteSampler) (reply : Except Fault Strategy) (h : Host) : Option Strategy × Host :=
  match reply with
  | .ok strategy => (some strategy, h.count r.control.metered .samplerRetrieved 1)
  | .error fault =>
    let h := h.count r.control.metered .samplerQueryFailure 1
    (none, h.log (fetchNotice r.control.service fault))

def fetch (own : Watch) (r : RemoteSampler) (h : Host) : Option Strategy × RemoteSampler × Host :=
  let (reply, r, h) := r.ask own h
  let (strategy, h) := r.heed reply h
  (strategy, r, h)

/-- Applies rates by operation: to the table in force, or as a new table. -/
def applyOperations (r : RemoteSampler) (p : OperationParameters) (h : Host) :
    Option Fault × RemoteSampler × Host :=
  match r.delegate with
  | .perOperation table =>
    let outcome := table.update p h.now
    let r := { r with delegate := .perOperation outcome.table }
    let h := { h with notices := h.notices ++ outcome.notices }
    match outcome.result with
    | .error f => (some f, r, h)
    | .ok false => (none, r, h)
    | .ok true =>
      let h := h.count r.control.metered .samplerUpdated 1
      (none, r, h.log (.operationsUpdated r.control.service outcome.table.description))
  | _ =>
    match r.control.maxOperations.number with
    | .error f => (some f, r, h)
    | .ok maxOperations =>
      let (table, notices) := OperationTable.create maxOperations p h.now
      let h := { h with notices := h.notices ++ notices }
      match table with
      | .error f => (some f, r, h)
      | .ok table => r.replace {} (.perOperation table) h

/-- Applies a strategy for all operations alike, unless the delegate already follows it. -/
def applyUniform (r : RemoteSampler) (s : Strategy) (h : Host) :
    Option Fault × RemoteSampler × Host :=
  match s.sampler? h.now with
  | .error f => (some f, r, h)
  | .ok none =>
    let h := h.count r.control.metered .samplerParsingFailure 1
    (none, r, h.log (.noStrategy r.control.service))
  | .ok (some sampler) =>
    if sampler == r.delegate then (none, r, h) else r.replace {} sampler h

def apply (r : RemoteSampler) (s : Strategy) (h : Host) : Option Fault × RemoteSampler × Host :=
  match s.operations with
  | some p => r.applyOperations p h
  | none => r.applyUniform s h

/-- One poll: fetches the strategy and applies it, unless the sampler is closed by then. -/
def update (own : Watch) (r : RemoteSampler) (h : Host) : Option Fault × RemoteSampler × Host :=
  let (strategy, r, h) := r.fetch own h
  match strategy with
  | none => (none, r, h)
  | some s => if r.control.closed then (none, r, h) else r.apply s h

def poll (own : Watch) (r : RemoteSampler) (h : Host) : RemoteSampler × Host :=
  match r.update own h with
  | (none, r, h) => (r, h)
  | (some _, r, h) => (r, h.log (.pollFailed r.control.service))

end RemoteSampler

end Tracing
