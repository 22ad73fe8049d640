import Tracing.Delivery.RemoteReporter
/-!
Callers, the worker and one closing call in any order. A move is one step of one of them: a command
taken, a flag read or set, a span buffered, a batch taken or sent. Whatever happens between two
moves may take any time, so a worker or a closing call stays where it is until its next move.
-/

set_option autoImplicit false
set_option relaxedAutoImplicit false

namespace Tracing

def batchOf (spans : List Span) : List (List Span) := if spans = [] then [] else [spans]

/-- Where the call that closes a reporter stands. -/
inductive Closing where
  | notBegun
  /-- No span is accepted any more; the worker was not yet asked to finish. -/
  | entering
  /-- The worker was asked to finish. -/
  | waiting
  /-- The worker was still at work when the time to finish was over. -/
  | late
  /-- About to give the queue up. -/
  | resigning
  /-- Empties the queue, which was given up or whose worker has ended; so many spans were thrown out
  and not yet counted. -/
  | draining (given : Bool) (thrown : Nat)
  /-- The queue was given up and emptied; the worker may still wait on it. -/
  | waking
  /-- Done with the queue; the sender was not yet closed. -/
  | leaving
  /-- The sender is being closed, its last batch taken and not yet sent. -/
  | releasing (batch : List Span)
  | returned

namespace Closing

/-- How many spans the call threw out of the queue and did not count yet. -/
def thrown : Closing → Nat
  | draining _ n => n
  | _ => 0

def inFlight : Closing → List Span
  | releasing batch => batch
  | _ => []

end Closing

/-- A reporter at work, and what became of the spans that it was given. -/
structure Delivery where
  reporter : RemoteReporter
  host : Host
  closing : Closing := .notBegun
  reported : Nat := 0
  accepted : List Span := []
  /-- The spans that the closing call threw out of the queue. -/
  discarded : List Span := []
  /-- The spans that the worker took out of the queue and let go. -/
  forsaken : List Span := []
  /-- The batches that the transport sent or failed to send, in the order of its answers. -/
  answered : List (List Span) := []
  /-- The queue was given up while the worker had a span in hand or was about to take one. -/
  overtaken : Bool := false

/-- Who makes the next step. -/
inductive Move where
  | report (span : Span)
  | flush
  /-- The worker takes a command. -/
  | take
  /-- The worker goes on. -/
  | proceed
  | close

namespace Delivery

def start (reporter : RemoteReporter) (host : Host) : Delivery := { reporter, host }

def act (d : Delivery) (f : RemoteReporter → Host → RemoteReporter × Host) : Delivery :=
  let (reporter, host) := f d.reporter d.host
  { d with reporter, host }

def work (d : Delivery) (f : RemoteReporter → Host → RemoteReporter × Host) : Delivery :=
  { d.act f with
    forsaken := d.forsaken ++ queuedSpans (d.reporter.worker.forsakes d.reporter.abandoned)
    answered := d.answered ++ batchOf d.reporter.worker.inFlight }

/-- The next step of a closing call that empties the queue: one command out, or the end. -/
def drainStep (d : Delivery) (given : Bool) (thrown : Nat) : Delivery :=
  match d.reporter.queue with
  | command :: rest =>
    { d with
      reporter := { d.reporter with queue := rest }
      closing := .draining given (thrown + (queuedSpans [command]).length)
      discarded := d.discarded ++ queuedSpans [command] }
  | [] =>
    { d with
      host := d.reporter.bookThrown thrown d.host
      closing := if given then .waking else .leaving }

/-- The next step of the closing call. It gives the queue up where that is full when it is the
call's turn, and where the worker has not ended by then. -/
def closeStep (d : Delivery) : Delivery :=
  match d.closing with
  | .notBegun => { d with reporter := { d.reporter with closed := true }, closing := .entering }
  | .entering =>
    if d.reporter.isFull then
      { d with host := d.host.log (.queueFull d.reporter.maxQueueSize), closing := .resigning }
    else { d with reporter := d.reporter.requestClose, closing := .waiting }
  | .waiting => { d with closing := if d.reporter.isAlive then .late else .draining false 0 }
  | .late =>
    { d with
      host := d.host.log (.drainTimedOut d.reporter.closeDrainTimeout d.reporter.queue.length)
      closing := .resigning }
  | .resigning =>
    { d with
      reporter := { d.reporter with abandoned := true }
      closing := .draining true 0
      overtaken := d.reporter.worker.isTaking d.reporter.queue }
  | .draining given thrown => d.drainStep given thrown
  | .waking => { d with reporter := d.reporter.wake, closing := .leaving }
  | .leaving =>
    let (batch, reporter) := d.reporter.startRelease
    { d with reporter, closing := .releasing batch }
  | .releasing batch =>
    let (_, reporter, host) := d.reporter.finishRelease batch d.host
    { d with reporter, host, closing := .returned, answered := d.answered ++ batchOf batch }
  | .returned => d

def step (d : Delivery) : Move → Delivery
  | .report span =>
    { d.act (·.offer span) with
      reported := d.reported + 1
      accepted := if d.reporter.refuses then d.accepted else d.accepted ++ [span] }
  | .flush => d.act RemoteReporter.tick
  | .take => d.act RemoteReporter.take
  | .proceed => d.work RemoteReporter.proceed
  | .close => d.closeStep

def run (d : Delivery) (moves : List Move) : Delivery := moves.foldl step d

/-- The spans that are being sent, by the worker or by the closing call. -/
def inFlight (d : Delivery) : List Span := d.reporter.worker.inFlight ++ d.closing.inFlight

/-- The worker waits on an empty queue, is sending or has ended, and the closing call is not
emptying the queue. -/
def AtRest (d : Delivery) : Prop :=
  (d.reporter.worker = .waiting ∧ d.reporter.queue = [] ∨
    (∃ kind batch, d.reporter.worker = .sending kind batch) ∨ d.reporter.worker = .ended) ∧
  ∀ given thrown, d.closing ≠ .draining given thrown

end Delivery

end Tracing
