import Tracing.Delivery.Interleaving
/-!
Delivery over any sender. What a sender does when it is called stands in the moves: the number that
it answers or what it raises, and what it leaves of itself and around it. The reporter books it as
it books what its own senders do.
-/

set_option autoImplicit false
set_option relaxedAutoImplicit false

namespace Tracing

/-- What a sender did when it was called. -/
structure Reply where
  answer : Except Fault Int
  sender : Sender
  batch : List Span := []
  notices : List Notice
  network : Http.Network

namespace Reply

def leave (p : Reply) (h : Host) : Host := { h with notices := p.notices, network := p.network }

/-- What there is to book. A counter refuses a number below zero. -/
def outcome (p : Reply) (metered : Bool) : Except Fault Nat :=
  match p.answer with
  | .error f => .error f
  | .ok n =>
    if metered && n < 0 then .error (.invalidValue "Counter can only be incremented")
    else .ok n.toNat

end Reply

namespace RemoteReporter

/-- Starts a command. An append is answered at once, and a flush is under way. -/
def startWith (r : RemoteReporter) (command : Command) (p : Reply) (h : Host) :
    RemoteReporter × Host :=
  let r := { r with sender := p.sender }
  match command, p.answer with
  | .append _, .error f => r.conclude .append (.error f) (p.leave h)
  | .append _, .ok due => ({ r with worker := .appending due.natAbs }, p.leave h)
  | .flush, _ => ({ r with worker := .sending .flush p.batch }, p.leave h)
  | .close, _ => ({ r with worker := .sending .close p.batch }, p.leave h)

/-- The next step of the worker, which calls the sender once at most. -/
def workWith (r : RemoteReporter) (p : Reply) (h : Host) : RemoteReporter × Host :=
  match r.worker with
  | .waiting => r.take h
  | .bound command => r.startWith command p h
  | .appending due =>
    if due = 0 then r.conclude .append (.ok 0) h
    else ({ r with sender := p.sender, worker := .sending .append p.batch }, p.leave h)
  | .sending kind _ =>
    { r with sender := p.sender }.conclude kind (p.outcome r.metered) (p.leave h)
  | .looking | .holding _ | .ended => r.proceed h

/-- Ends closing the sender, and shows an empty queue. A counter that refuses the loss is a
fault. -/
def closeWith (r : RemoteReporter) (p : Reply) (h : Host) :
    Option Fault × RemoteReporter × Host :=
  let r := { r with sender := p.sender }
  let h := p.leave h
  match p.outcome r.metered with
  | .ok sent =>
    let h := h.count r.metered .reporterSuccess sent
    (none, r, h.gauge r.metered .reporterQueueLength 0)
  | .error (.failure (.sender text dropped cause)) =>
    match h.count? r.metered .reporterFailure dropped with
    | none => (some (.invalidValue "Counter can only be incremented"), r, h)
    | some h =>
      let h := h.log (.senderCloseFailed (Failure.sender text dropped cause).text)
      (none, r, h.gauge r.metered .reporterQueueLength 0)
  | .error _ =>
    (none, r, (h.log .senderCloseRaised).gauge r.metered .reporterQueueLength 0)

def next? (r : RemoteReporter) : Option Command :=
  match r.worker with
  | .bound command => some command
  | _ => none

def admits (r : RemoteReporter) (command : Command) : List Command :=
  if r.refuses then [] else [command]

end RemoteReporter

/-- A delivery with its commands: those that were put in the queue so far, those that the worker
started, those that the closing call threw out, and the one that the worker let go; and what the
closing call raised. -/
structure Handling where
  delivery : Delivery
  accepted : List Command := []
  started : List Command := []
  discarded : List Command := []
  forsaken : List Command := []
  raised : Option Fault := none

/-- A step of anyone, with what the sender does if it is called. -/
inductive Event where
  | report (span : Span)
  | flush
  | work (p : Reply)
  | close (p : Reply)

namespace Handling

def closeStep (s : Handling) (p : Reply) : Handling :=
  match s.delivery.closing with
  | .entering =>
    { s with
      delivery := s.delivery.closeStep
      accepted := if s.delivery.reporter.isFull then s.accepted else s.accepted ++ [.close] }
  | .draining .. =>
    { s with
      delivery := s.delivery.closeStep
      discarded := s.discarded ++ s.delivery.reporter.queue.head?.toList }
  | .waking =>
    { s with
      delivery := s.delivery.closeStep
      accepted := if s.delivery.reporter.isFull then s.accepted else s.accepted ++ [.close] }
  | .leaving =>
    { s with
      delivery :=
        { s.delivery with
          reporter := { s.delivery.reporter with sender := p.sender }
          host := p.leave s.delivery.host
          closing := .releasing p.batch } }
  | .releasing batch =>
    let (raised, reporter, host) := s.delivery.reporter.closeWith p s.delivery.host
    { s with
      delivery :=
        { s.delivery with
          reporter, host, closing := .returned, answered := s.delivery.answered ++ batchOf batch }
      raised }
  | .notBegun | .waiting | .late | .resigning | .returned =>
    { s with delivery := s.delivery.closeStep }

def step (s : Handling) : Event → Handling
  | .report span =>
    { s with
      delivery := s.delivery.step (.report span)
      accepted := s.accepted ++ s.delivery.reporter.admits (.append span) }
  | .flush =>
    { s with
      delivery := s.delivery.step .flush
      accepted := s.accepted ++ s.delivery.reporter.admits .flush }
  | .work p =>
    { s with
      delivery := s.delivery.work (·.workWith p)
      started := s.started ++ s.delivery.reporter.next?.toList
      forsaken := s.forsaken ++
        s.delivery.reporter.worker.forsakes s.delivery.reporter.abandoned }
  | .close p => s.closeStep p

def run (s : Handling) (events : List Event) : Handling := events.foldl step s

end Handling

end Tracing
