import Tracing.Delivery.Sender
/-!
Delivery through a bounded queue. Reporting a span queues a command and never waits; one worker
takes the commands in order and drives the sender; closing waits for the worker a bounded time and
else abandons the queue. The worker is an explicit state, so a run is a sequence of steps of the
caller and of the worker in any order.
-/

set_option autoImplicit false
set_option relaxedAutoImplicit false

namespace Tracing

/-- What the worker is asked to do. -/
inductive Command where
  | append (span : Span)
  | flush
  | close

def Command.kind : Command → CommandKind
  | append _ => .append
  | flush => .flush
  | close => .close

def Command.span? : Command → Option Span
  | append span => some span
  | _ => none

def queuedSpans (queue : List Command) : List Span := queue.filterMap Command.span?

/-- Where the worker stands. -/
inductive Worker where
  /-- About to look whether the queue was given up. -/
  | looking
  /-- Waits for a command. -/
  | waiting
  /-- Took a command out of the queue; looks again before it runs it. -/
  | holding (command : Command)
  /-- About to run a command. -/
  | bound (command : Command)
  /-- In an append, the span buffered; `due` is what the sender answers. -/
  | appending (due : Nat)
  /-- In a command of some kind, a batch taken and not yet sent. -/
  | sending (kind : CommandKind) (batch : List Span)
  | ended

namespace Worker

def after : CommandKind → Worker
  | .close => ended
  | _ => looking

def inHand : Worker → List Command
  | holding command | bound command => [command]
  | _ => []

def inFlight : Worker → List Span
  | sending _ batch => batch
  | _ => []

/-- Whether a worker has a span in hand that is not buffered yet, or may take one next. -/
def isTaking (queue : List Command) : Worker → Bool
  | waiting => !(queuedSpans queue).isEmpty
  | worker => !(queuedSpans worker.inHand).isEmpty

/-- The command that a worker lets go of when it finds its queue given up. -/
def forsakes (abandoned : Bool) : Worker → List Command
  | holding command => if abandoned then [command] else []
  | _ => []

end Worker

/-- Which kinds of command failed the last time they ran. -/
structure Failing where
  append : Bool := false
  flush : Bool := false
  close : Bool := false

namespace Failing

def get (f : Failing) : CommandKind → Bool
  | .append => f.append
  | .flush => f.flush
  | .close => f.close

def set (f : Failing) (kind : CommandKind) (b : Bool) : Failing :=
  match kind with
  | .append => { f with append := b }
  | .flush => { f with flush := b }
  | .close => { f with close := b }

@[simp] theorem get_set (f : Failing) (k j : CommandKind) (b : Bool) :
    (f.set k b).get j = if k = j then b else f.get j := by
  cases k <;> cases j <;> rfl

end Failing

/-- A reporter with its queue, worker and sender. -/
structure RemoteReporter where
  sender : Sender
  flushInterval : Binary64
  maxQueueSize : Number
  closeEnqueueTimeout : Binary64
  closeDrainTimeout : Binary64
  metered : Bool
  queue : List Command := []
  worker : Worker := .looking
  failing : Failing := {}
  closed : Bool := false
  abandoned : Bool := false

namespace RemoteReporter

/-- Seconds between flushes, unless said otherwise. -/
def standardFlushInterval : Binary64 := .one

/-- Commands that the queue holds, unless said otherwise. -/
def standardMaxQueueSize : Int := 100

/-- Seconds that closing waits for a place in the queue, unless said otherwise. -/
def standardEnqueueTimeout : Binary64 := .one

/-- Seconds that closing waits for the worker, unless said otherwise. -/
def standardDrainTimeout : Binary64 := .ofNat 10

def queueSizeMessage : String := "max_queue_size must be positive"

/-- A reporter whose queue holds at least one command. -/
def create (r : RemoteReporter) : Except Fault RemoteReporter :=
  if r.maxQueueSize.le (.integer 0) then .error (.invalidValue queueSizeMessage) else .ok r

def isFull (r : RemoteReporter) : Bool := r.maxQueueSize.le (.integer r.queue.length)

def isAlive (r : RemoteReporter) : Bool :=
  match r.worker with
  | .ended => false
  | _ => true

/-- How many spans a failed command loses: an append its own span at least, any command what the
sender says. -/
def lostSpans (kind : CommandKind) (fault : Fault) : Int :=
  match fault, kind with
  | .failure (.sender _ dropped _), .append => max dropped 1
  | .failure (.sender _ dropped _), _ => dropped
  | _, .append => 1
  | _, _ => 0

def failureNotice (kind : CommandKind) (lost : Int) (fault : Fault) : Notice :=
  match fault with
  | .failure (.sender text dropped cause) =>
    .commandFailed kind lost (Failure.sender text dropped cause).text
  | _ => .commandRaised kind lost

/-- Books the outcome of a command. A kind of command is reported when it starts to fail and when
it works again. A counter that refuses the loss ends the worker. -/
def conclude (r : RemoteReporter) (kind : CommandKind) (outcome : Except Fault Nat) (h : Host) :
    RemoteReporter × Host :=
  match outcome with
  | .ok sent =>
    let h := h.count r.metered .reporterSuccess sent
    let h := if r.failing.get kind then h.log (.commandRecovered kind) else h
    ({ r with worker := .after kind, failing := r.failing.set kind false }, h)
  | .error fault =>
    let lost := lostSpans kind fault
    match h.count? r.metered .reporterFailure lost with
    | none => ({ r with worker := .ended }, h)
    | some h =>
      let h := if r.failing.get kind then h else h.log (failureNotice kind lost fault)
      ({ r with worker := .after kind, failing := r.failing.set kind true }, h)

def transmit (r : RemoteReporter) (kind : CommandKind) (batch : List Span) (h : Host) :
    RemoteReporter × Host :=
  let (outcome, sender, h) := r.sender.sendBatch batch h
  { r with sender }.conclude kind outcome h

/-- Starts to send what is buffered; there is nothing to send where nothing is buffered. -/
def startFlush (r : RemoteReporter) (kind : CommandKind) (h : Host) : RemoteReporter × Host :=
  let (batch, sender) := r.sender.startFlush
  let r := { r with sender }
  if batch.isEmpty then r.conclude kind (.ok 0) h
  else ({ r with worker := .sending kind batch }, h)

/-- Starts a command, up to the place where the worker can be held. -/
def start (r : RemoteReporter) (command : Command) (h : Host) : RemoteReporter × Host :=
  match command with
  | .append span =>
    let (result, sender) := r.sender.append span
    let r := { r with sender }
    match result with
    | .error f => r.conclude .append (.error f) h
    | .ok due => ({ r with worker := .appending due }, h)
  | .flush => r.startFlush .flush h
  | .close => r.startFlush .close h

/-- Takes the next command out of the queue, if the worker waits and there is one. -/
def take (r : RemoteReporter) (h : Host) : RemoteReporter × Host :=
  match r.worker, r.queue with
  | .waiting, command :: rest => ({ r with queue := rest, worker := .holding command }, h)
  | _, _ => (r, h)

/-- The next step of a worker that does not wait. A worker that finds the queue given up ends, and a
command in its hand is lost. Inside an append, the buffer is flushed if it is due. -/
def proceed (r : RemoteReporter) (h : Host) : RemoteReporter × Host :=
  match r.worker with
  | .looking => ({ r with worker := if r.abandoned then .ended else .waiting }, h)
  | .holding command => ({ r with worker := if r.abandoned then .ended else .bound command }, h)
  | .bound command => r.start command h
  | .appending due => if due = 0 then r.conclude .append (.ok 0) h else r.startFlush .append h
  | .sending kind batch => r.transmit kind batch h
  | .waiting | .ended => (r, h)

def isGated (r : RemoteReporter) : Bool :=
  match r.worker with
  | .appending _ => r.sender.isGated .append
  | .sending .. => r.sender.isGated .send
  | _ => false

/-- Goes on, unless the worker is held at a gate. -/
def proceedUngated (r : RemoteReporter) (h : Host) : RemoteReporter × Host :=
  if r.isGated then (r, h) else r.proceed h

def proceedTimes : Nat → RemoteReporter → Host → RemoteReporter × Host
  | 0, r, h => (r, h)
  | n + 1, r, h =>
    let (r, h) := r.proceedUngated h
    proceedTimes n r h

/-- Goes on up to a gate, or until the worker waits or has ended: no command takes more steps. -/
def advance (r : RemoteReporter) (h : Host) : RemoteReporter × Host := r.proceedTimes 5 h

/-- Takes the next command and runs it up to its end or to a gate. -/
def work (r : RemoteReporter) (h : Host) : RemoteReporter × Host :=
  let (r, h) := r.take h
  r.advance h

def workTimes : Nat → RemoteReporter → Host → RemoteReporter × Host
  | 0, r, h => (r, h)
  | n + 1, r, h =>
    let (r, h) := r.work h
    workTimes n r h

/-- Works until the worker waits on an empty queue, is held, or has ended. -/
def settle (r : RemoteReporter) (h : Host) : RemoteReporter × Host :=
  let (r, h) := r.advance h
  workTimes r.queue.length r h

def refuses (r : RemoteReporter) : Bool := r.closed || r.isFull

/-- Queues a span; a full or closed queue drops it. -/
def offer (r : RemoteReporter) (span : Span) (h : Host) : RemoteReporter × Host :=
  if r.refuses then (r, h.count r.metered .reporterDropped 1)
  else ({ r with queue := r.queue ++ [.append span] }, h)

/-- Shows the length of the queue and asks for a flush; a full or closed queue takes no request. -/
def tick (r : RemoteReporter) (h : Host) : RemoteReporter × Host :=
  let h := h.gauge r.metered .reporterQueueLength r.queue.length
  if r.refuses then (r, h) else ({ r with queue := r.queue ++ [.flush] }, h)

def flush (r : RemoteReporter) (h : Host) : RemoteReporter × Host :=
  let (r, h) := r.tick h
  r.settle h

def bookThrown (r : RemoteReporter) (thrown : Nat) (h : Host) : Host :=
  if thrown = 0 then h
  else (h.count r.metered .reporterDropped thrown).log (.queueDropped thrown)

/-- Empties the queue and counts the spans that no one will send. -/
def drain (r : RemoteReporter) (h : Host) : RemoteReporter × Host :=
  ({ r with queue := [] }, r.bookThrown (queuedSpans r.queue).length h)

/-- Leaves a command that wakes a waiting worker, if there is a place for it. -/
def wake (r : RemoteReporter) : RemoteReporter :=
  if r.isFull then r else { r with queue := r.queue ++ [.close] }

/-- Gives the queue up: empties it, and wakes a waiting worker. -/
def abandon (r : RemoteReporter) (h : Host) : RemoteReporter × Host :=
  let (r, h) := { r with abandoned := true }.drain h
  (r.wake, h)

def startRelease (r : RemoteReporter) : List Span × RemoteReporter :=
  let (batch, sender) := r.sender.startClose
  (batch, { r with sender })

/-- Ends closing the sender, and shows an empty queue. A counter that refuses the loss is a
fault. -/
def finishRelease (r : RemoteReporter) (batch : List Span) (h : Host) :
    Option Fault × RemoteReporter × Host :=
  let (result, sender, h) := r.sender.finishClose batch h
  let r := { r with sender }
  match result with
  | .ok sent =>
    let h := h.count r.metered .reporterSuccess sent
    (none, r, h.gauge r.metered .reporterQueueLength 0)
  | .error (.failure (.sender text dropped cause)) =>
    match h.count? r.metered .reporterFailure dropped with
    | none => (some (.invalidValue "Counter can only be incremented"), r, h)
    | some h =>
      let h := h.log (.senderCloseFailed (Failure.sender text dropped cause).text)
      (none, r, h.gauge r.metered .reporterQueueLength 0)
  | .error _ =>
    (none, r, (h.log .senderCloseRaised).gauge r.metered .reporterQueueLength 0)

def closeSender (r : RemoteReporter) (h : Host) : Option Fault × RemoteReporter × Host :=
  let (batch, r) := r.startRelease
  r.finishRelease batch h

/-- Asks the worker to finish after what waits in the queue. -/
def requestClose (r : RemoteReporter) : RemoteReporter := { r with queue := r.queue ++ [.close] }

/-- Gives up a queue that has no place for the request to finish. -/
def abandonFull (r : RemoteReporter) (h : Host) : RemoteReporter × Host :=
  r.abandon (h.log (.queueFull r.maxQueueSize))

def abandonLate (r : RemoteReporter) (h : Host) : RemoteReporter × Host :=
  r.abandon (h.log (.drainTimedOut r.closeDrainTimeout r.queue.length))

/-- Shuts the queue: asks the worker to finish, and gives the queue up where it has no place for
that or the worker is held. -/
def shut (r : RemoteReporter) (h : Host) : RemoteReporter × Host :=
  let r := { r with closed := true }
  if r.isFull then r.abandonFull h else
  let (r, h) := r.requestClose.settle h
  if r.isAlive then r.abandonLate h else r.drain h

def close (r : RemoteReporter) (h : Host) : Option Fault × RemoteReporter × Host :=
  if r.closed then (none, r, h) else
  let (r, h) := r.shut h
  r.closeSender h

def hold (r : RemoteReporter) (gate : Gate) : RemoteReporter :=
  { r with sender := r.sender.withGates (gate :: ·) }

def resume (r : RemoteReporter) (h : Host) : RemoteReporter × Host :=
  let r := { r with sender := r.sender.withGates fun _ => [] }
  let (r, h) := r.advance h
  r.settle h

def description? (r : RemoteReporter) : Option String :=
  r.sender.description?.map fun sender =>
    s!"RemoteReporter(sender={sender}, flush_interval={r.flushInterval.text}, " ++
      s!"max_queue_size={r.maxQueueSize.text})"

def state (r : RemoteReporter) : Json :=
  .object ([("class", .text "RemoteReporter"), ("closed", .truth r.closed),
    ("queue_length", .integer r.queue.length), ("max_queue_size", .ofNumber r.maxQueueSize),
    ("worker_alive", .truth r.isAlive), ("timer_cancelled", .truth r.closed),
    ("sender", r.sender.state)] ++
    match r.description? with
    | some text => [("repr", .text text)]
    | none => [])

def layout (r : RemoteReporter) : Json :=
  .object [("class", .text "RemoteReporter"), ("flush_interval", .real r.flushInterval),
    ("max_queue_size", .ofNumber r.maxQueueSize),
    ("close_enqueue_timeout", .real r.closeEnqueueTimeout),
    ("close_drain_timeout", .real r.closeDrainTimeout), ("sender", r.sender.state)]

end RemoteReporter

end Tracing
