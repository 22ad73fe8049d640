import Tracing.Notice
import Tracing.Fault
/-!
Periodic tasks: work that is done again and again at a steady interval until it is cancelled. The
first time comes after a delay. Work that fails is logged and does not end the task.
-/

set_option autoImplicit false
set_option relaxedAutoImplicit false

namespace Tracing

/-- What the work of a task does at one time. -/
inductive TaskAction where
  | succeed
  | fail
  | joinItself
  | cancel
  | cancelAndFail
  deriving DecidableEq

namespace TaskAction

def named : List (String × TaskAction) :=
  [("ok", succeed), ("raise", fail), ("join_self", joinItself), ("cancel", cancel),
    ("cancel_raise", cancelAndFail)]

def name : TaskAction → String
  | succeed => "ok"
  | fail => "raise"
  | joinItself => "join_self"
  | cancel => "cancel"
  | cancelAndFail => "cancel_raise"

/-- The action of a name; an unknown name is an action that succeeds. -/
def ofName (name : String) : TaskAction :=
  ((named.find? fun (k, _) => k = name).map Prod.snd).getD succeed

def cancels : TaskAction → Bool
  | cancel | cancelAndFail => true
  | _ => false

/-- Whether the work fails. Joining its own task is no failure: nothing is waited for. -/
def fails : TaskAction → Bool
  | fail | cancelAndFail => true
  | _ => false

end TaskAction

/-- Whether a task was started, and whether its worker has ended. -/
inductive TaskPhase where
  | idle
  | running
  | ended
  deriving DecidableEq

/-- A periodic task. What its work will do is a list; where the list ends, the work cancels. -/
structure PeriodicTask where
  name : Json
  interval : Number
  initialDelay : Json
  actions : List TaskAction
  phase : TaskPhase := .idle
  cancelled : Bool := false
  ticks : Nat := 0
  taken : List TaskAction := []

namespace PeriodicTask

def intervalMessage : String := "interval must be positive"

/-- A task that is not started yet. Without a delay of its own it waits one interval. -/
def create (name interval initialDelay : Json) (actions : List TaskAction) :
    Except Fault PeriodicTask := do
  let interval ← interval.number
  if interval.le (.integer 0) then throw (.invalidValue intervalMessage)
  let initialDelay :=
    match initialDelay with
    | .null => .ofNumber interval
    | delay => delay
  return { name, interval, initialDelay, actions }

/-- The most nanoseconds that a worker can wait. -/
def longestWait : Int := 0x7FFFFFFFFFFFFFFF

/-- Whether a worker can wait so many seconds. What is not above zero is not waited for. -/
def canWait (seconds : Number) : Bool :=
  if !(Number.integer 0).lt seconds then true else
  match seconds.toInt?, seconds.toBinary64? with
  | some n, _ => n * 1000000000 ≤ longestWait
  | none, some x => (Number.real (x * .ofNat 1000000000)).le (.integer longestWait)
  | none, none => false

def canBegin (t : PeriodicTask) : Bool := t.initialDelay.toNumber?.any canWait

/-- Starts the worker, once, and never after a cancellation. A worker that cannot wait ends at
once. -/
def start (t : PeriodicTask) : PeriodicTask :=
  if t.phase = .idle && !t.cancelled then
    { t with phase := if t.canBegin then .running else .ended }
  else t

/-- Cancels the task. A worker that waits for its time ends. -/
def cancel (t : PeriodicTask) : PeriodicTask :=
  { t with
    cancelled := true
    phase := if t.phase = .running then .ended else t.phase }

/-- Does the work once. -/
def tick (t : PeriodicTask) (action : TaskAction) : PeriodicTask × List Notice :=
  let t := { t with ticks := t.ticks + 1, taken := t.taken ++ [action] }
  (if action.cancels then t.cancel else t, if action.fails then [.taskFailed t.name] else [])

/-- Does the work until it cancels the task, or until the worker cannot wait for its next time. -/
def runAll (t : PeriodicTask) : List TaskAction → PeriodicTask × List Notice
  | [] => { t with actions := [] }.tick .cancel
  | action :: rest =>
    let (t, notices) := { t with actions := rest }.tick action
    if action.cancels then (t, notices)
    else if !canWait t.interval then ({ t with phase := .ended }, notices)
    else
      let (t, more) := t.runAll rest
      (t, notices ++ more)

/-- Waits until the worker has ended. A worker that is not running is not waited for. -/
def join (t : PeriodicTask) : PeriodicTask × List Notice :=
  if t.phase = .running then t.runAll t.actions else (t, [])

def isAlive (t : PeriodicTask) : Bool := t.phase = .running

def state (t : PeriodicTask) : Json :=
  .object [("cancelled", .truth t.cancelled), ("alive", .truth t.isAlive),
    ("ticks", .integer t.ticks), ("actions", .array (t.taken.map fun a => .text a.name)),
    ("initial_delay", t.initialDelay), ("interval", .ofNumber t.interval)]

end PeriodicTask

end Tracing
