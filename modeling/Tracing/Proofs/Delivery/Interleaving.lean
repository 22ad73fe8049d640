import Tracing.Proofs.Delivery.Buffering
import Tracing.Delivery.Interleaving
/-!
Every operation of a reporter is a run of moves: a worker that settles makes moves of its own, and a
call that closes the reporter is a run of its moves and the worker's.
-/

set_option autoImplicit false
set_option relaxedAutoImplicit false

namespace Tracing

@[simp] theorem queuedSpans_nil : queuedSpans [] = [] := rfl

@[simp] theorem queuedSpans_cons (command : Command) (rest : List Command) :
    queuedSpans (command :: rest) = command.span?.toList ++ queuedSpans rest := by
  cases command <;> rfl

@[simp] theorem queuedSpans_append (front back : List Command) :
    queuedSpans (front ++ back) = queuedSpans front ++ queuedSpans back :=
  List.filterMap_append ..

def Move.reportNamed (name : String) : Move :=
  report { traceId := 1, spanId := 1, operation := .text name }

def Move.isReport : Move → Bool
  | report _ => true
  | _ => false

def Move.isWork : Move → Bool
  | take | proceed => true
  | _ => false

/-- Whether a move is the worker's or one of the closing call. -/
def Move.isLate : Move → Bool
  | take | proceed | close => true
  | _ => false

/-- A reporter before its first call. -/
structure RemoteReporter.IsFresh (r : RemoteReporter) : Prop where
  queue : r.queue = []
  worker : r.worker = .looking
  closed : r.closed = false
  abandoned : r.abandoned = false

/-- A reporter over a scripted transport, before its first call. -/
def RemoteReporter.scripted (batchSize queueSize : Int)
    (outcomes : List (Option ScriptedFailure)) : RemoteReporter where
  sender := .buffered { maxBatchSize := .integer batchSize } (.scripted outcomes [])
  flushInterval := standardFlushInterval
  maxQueueSize := .integer queueSize
  closeEnqueueTimeout := standardEnqueueTimeout
  closeDrainTimeout := standardDrainTimeout
  metered := true

theorem RemoteReporter.isFresh_scripted (batchSize queueSize : Int)
    (outcomes : List (Option ScriptedFailure)) :
    (scripted batchSize queueSize outcomes).IsFresh :=
  ⟨rfl, rfl, rfl, rfl⟩

theorem RemoteReporter.ended_of_not_alive {r : RemoteReporter} (dead : r.isAlive = false) :
    r.worker = .ended := by
  unfold isAlive at dead
  split at dead
  · assumption
  · cases dead

namespace Delivery

@[simp] theorem run_nil (d : Delivery) : d.run [] = d := rfl

@[simp] theorem run_cons (d : Delivery) (move : Move) (moves : List Move) :
    d.run (move :: moves) = (d.step move).run moves := rfl

theorem run_append (d : Delivery) (before after : List Move) :
    d.run (before ++ after) = (d.run before).run after :=
  List.foldl_append ..

theorem closeStep_frame (d : Delivery) :
    d.closeStep.reported = d.reported ∧ d.closeStep.accepted = d.accepted := by
  unfold closeStep drainStep
  split
  case h_2 => split <;> exact ⟨rfl, rfl⟩
  case h_6 => split <;> exact ⟨rfl, rfl⟩
  all_goals exact ⟨rfl, rfl⟩

theorem reported_step (d : Delivery) (move : Move) :
    (d.step move).reported = d.reported + if move.isReport then 1 else 0 := by
  cases move with
  | report | flush | take | proceed => rfl
  | close => exact d.closeStep_frame.1

theorem reported_run (d : Delivery) (moves : List Move) :
    (d.run moves).reported = d.reported + moves.countP Move.isReport := by
  induction moves generalizing d with
  | nil => rfl
  | cons move rest ih =>
    rw [run_cons, ih, reported_step, List.countP_cons]
    omega

/-- Moves of the worker lead from a delivery to a reporter in its surroundings, and leave the
closing call where it is. -/
def Works (d : Delivery) (reached : RemoteReporter × Host) : Prop :=
  ∃ moves, moves.all Move.isWork = true ∧ (d.run moves).reporter = reached.1 ∧
    (d.run moves).host = reached.2 ∧ (d.run moves).closing = d.closing

private theorem Works.trans {d : Delivery} {moves : List Move} {reached : RemoteReporter × Host}
    (work : moves.all Move.isWork = true) (same : (d.run moves).closing = d.closing)
    (later : (d.run moves).Works reached) : d.Works reached := by
  obtain ⟨after, work', reporter, host, closing⟩ := later
  refine ⟨moves ++ after, by simp [List.all_append, work, work'], ?_⟩
  rw [run_append]
  exact ⟨reporter, host, closing.trans same⟩

private theorem Works.bind {d : Delivery} {reached : RemoteReporter × Host}
    {f : RemoteReporter → Host → RemoteReporter × Host} (h : d.Works reached)
    (later : ∀ d' : Delivery, d'.Works (f d'.reporter d'.host)) :
    d.Works (f reached.1 reached.2) := by
  obtain ⟨moves, work, reporter, host, closing⟩ := h
  exact .trans work closing (reporter ▸ host ▸ later (d.run moves))

private theorem works_proceedUngated (d : Delivery) :
    d.Works (d.reporter.proceedUngated d.host) := by
  unfold RemoteReporter.proceedUngated
  cases gated : d.reporter.isGated with
  | true => exact ⟨[], rfl, rfl, rfl, rfl⟩
  | false => exact ⟨[.proceed], rfl, rfl, rfl, rfl⟩

private theorem works_proceedTimes (n : Nat) (d : Delivery) :
    d.Works (d.reporter.proceedTimes n d.host) := by
  induction n generalizing d with
  | zero => exact ⟨[], rfl, rfl, rfl, rfl⟩
  | succ n ih => exact (works_proceedUngated d).bind (f := RemoteReporter.proceedTimes n) ih

private theorem works_work (d : Delivery) : d.Works (d.reporter.work d.host) := by
  have taken : d.Works (d.reporter.take d.host) := ⟨[.take], rfl, rfl, rfl, rfl⟩
  exact taken.bind (f := RemoteReporter.advance) (works_proceedTimes 5)

private theorem works_workTimes (n : Nat) (d : Delivery) :
    d.Works (d.reporter.workTimes n d.host) := by
  induction n generalizing d with
  | zero => exact ⟨[], rfl, rfl, rfl, rfl⟩
  | succ n ih => exact (works_work d).bind (f := RemoteReporter.workTimes n) ih

/-- A worker that settles makes moves, and so does no one else. -/
theorem works_settle (d : Delivery) : d.Works (d.reporter.settle d.host) :=
  Works.bind (f := fun r h => r.workTimes r.queue.length h) (works_proceedTimes 5 d)
    fun d' => works_workTimes _ d'

theorem late_of_work {moves : List Move} (work : moves.all Move.isWork = true) :
    moves.all Move.isLate = true := by
  refine List.all_eq_true.mpr fun move m => ?_
  have works := List.all_eq_true.mp work move m
  cases move <;> first | rfl | exact works

/-- Moves of the closing call and of the worker lead to a reporter in its surroundings, with the
queue done with. -/
def Leaves (d : Delivery) (reached : RemoteReporter × Host) : Prop :=
  ∃ moves, moves.all Move.isLate = true ∧ (d.run moves).closing = .leaving ∧
    (d.run moves).reporter = reached.1 ∧ (d.run moves).host = reached.2

private theorem Leaves.of_run {d : Delivery} {reached : RemoteReporter × Host} (moves : List Move)
    (late : moves.all Move.isLate = true) (leaves : (d.run moves).Leaves reached) :
    d.Leaves reached := by
  obtain ⟨after, late', closing, reporter, host⟩ := leaves
  refine ⟨moves ++ after, by simp [List.all_append, late, late'], ?_⟩
  rw [run_append]
  exact ⟨closing, reporter, host⟩

private theorem run_drain (d : Delivery) {given : Bool} (thrown : Nat)
    (draining : d.closing = .draining given thrown) :
    ∃ moves, moves.all Move.isLate = true ∧
      (d.run moves).closing = (if given then .waking else .leaving) ∧
      (d.run moves).reporter = { d.reporter with queue := [] } ∧
      (d.run moves).host =
        d.reporter.bookThrown (thrown + (queuedSpans d.reporter.queue).length) d.host := by
  obtain ⟨r, host, closing, reported, accepted, discarded, forsaken, answered, overtaken⟩ := d
  simp only at draining
  subst draining
  generalize waiting : r.queue = queue
  induction queue generalizing r thrown discarded with
  | nil =>
    have same : r = { r with queue := [] } := by rw [← waiting]
    refine ⟨[.close], rfl, ?_⟩
    simpa [step, closeStep, drainStep, waiting] using same
  | cons command rest ih =>
    obtain ⟨moves, late, closing, reporter, booked⟩ :=
      ih (thrown + (queuedSpans [command]).length) { r with queue := rest }
        (discarded ++ queuedSpans [command]) rfl
    refine ⟨.close :: moves, by simpa [Move.isLate] using late, ?_⟩
    have out : ∀ d : Delivery, d.reporter = r → d.closing = .draining given thrown →
        d.step .close = { d with
          reporter := { r with queue := rest }
          closing := .draining given (thrown + (queuedSpans [command]).length)
          discarded := d.discarded ++ queuedSpans [command] } := by
      rintro d rfl closing
      simp [step, closeStep, drainStep, closing, waiting]
    rw [run_cons, out _ rfl rfl]
    refine ⟨closing, reporter, booked.trans ?_⟩
    simp only [queuedSpans_cons, queuedSpans_nil, List.append_nil, List.length_append,
      ← Nat.add_assoc]
    rfl

private theorem leaves_drain {d : Delivery} (draining : d.closing = .draining false 0) :
    d.Leaves (d.reporter.drain d.host) := by
  obtain ⟨moves, late, closing, reporter, host⟩ := run_drain d 0 draining
  rw [Nat.zero_add] at host
  exact ⟨moves, late, closing, reporter, host⟩

private theorem leaves_abandon {d : Delivery} (resigning : d.closing = .resigning) :
    d.Leaves (d.reporter.abandon d.host) := by
  let given : Delivery :=
    { d with
      reporter := { d.reporter with abandoned := true }
      closing := .draining true 0
      overtaken := d.reporter.worker.isTaking d.reporter.queue }
  have gives : d.step .close = given := by simp only [step, closeStep, resigning, given]
  obtain ⟨moves, late, closing, reporter, host⟩ := given.run_drain 0 rfl
  rw [Nat.zero_add] at host
  have woken : (given.run moves).step .close =
      { given.run moves with
        reporter := (given.run moves).reporter.wake
        closing := .leaving } := by
    simp only [step, closeStep, closing, if_true]
  refine ⟨.close :: moves ++ [.close], by simp [Move.isLate, late], ?_⟩
  rw [List.cons_append, run_cons, gives, run_append, run_cons, run_nil, woken]
  exact ⟨rfl, by rw [reporter]; rfl, host⟩

private theorem leaves_waiting {d : Delivery} (waits : d.closing = .waiting) :
    d.Leaves (if d.reporter.isAlive then d.reporter.abandonLate d.host
      else d.reporter.drain d.host) := by
  cases alive : d.reporter.isAlive with
  | true =>
    let warned : Delivery :=
      { d with
        host := d.host.log (.drainTimedOut d.reporter.closeDrainTimeout d.reporter.queue.length)
        closing := .resigning }
    have warns : (d.step .close).step .close = warned := by
      simp only [step, closeStep, waits, alive, if_true, warned]
    refine .of_run [.close, .close] rfl ?_
    rw [run_cons, run_cons, run_nil, warns]
    exact leaves_abandon rfl
  | false =>
    have drains : d.step .close = { d with closing := .draining false 0 } := by
      simp only [step, closeStep, waits, alive]
      rfl
    refine .of_run [.close] rfl ?_
    rw [run_cons, run_nil, drains]
    exact leaves_drain rfl

private theorem leaves_shut (d : Delivery) (begun : d.closing = .notBegun) :
    d.Leaves (d.reporter.shut d.host) := by
  let entered : Delivery :=
    { d with reporter := { d.reporter with closed := true }, closing := .entering }
  have enter : d.step .close = entered := by simp only [step, closeStep, begun, entered]
  cases full : entered.reporter.isFull with
  | true =>
    let resigning : Delivery :=
      { entered with
        host := d.host.log (.queueFull d.reporter.maxQueueSize), closing := .resigning }
    have crowded : entered.step .close = resigning := by
      simp only [step, closeStep, full, entered, if_true, resigning]
    have shut : d.reporter.shut d.host = resigning.reporter.abandon resigning.host := by
      have full : ({ d.reporter with closed := true } : RemoteReporter).isFull = true := full
      simp only [RemoteReporter.shut, full, if_true]
      rfl
    rw [shut]
    refine .of_run [.close, .close] rfl ?_
    simp only [run_cons, run_nil, enter, crowded]
    exact leaves_abandon rfl
  | false =>
    let asked : Delivery :=
      { entered with reporter := entered.reporter.requestClose, closing := .waiting }
    have ask : entered.step .close = asked := by
      simp only [step, closeStep, full, entered, asked]
      rfl
    obtain ⟨moves, work, reporter, host, waits⟩ := works_settle asked
    let idle := asked.run moves
    have ran : d.run (.close :: .close :: moves) = idle := by
      simp only [run_cons, enter, ask, idle]
    have shut : d.reporter.shut d.host =
        if idle.reporter.isAlive then idle.reporter.abandonLate idle.host
        else idle.reporter.drain idle.host := by
      have room : ({ d.reporter with closed := true } : RemoteReporter).isFull = false := full
      simp only [RemoteReporter.shut, room, idle, reporter, host]
      rfl
    refine .of_run (.close :: .close :: moves) (by simp [Move.isLate, late_of_work work]) ?_
    rw [ran, shut]
    exact leaves_waiting waits

/-- A call that closes an open reporter is a run of its own moves and the worker's; with the last of
them it returns. -/
theorem close_eq_run (d : Delivery) (closed : d.reporter.closed = false)
    (begun : d.closing = .notBegun) :
    ∃ moves : List Move, moves.all Move.isLate = true ∧ (d.run moves).closing ≠ .returned ∧
      ((d.run moves).step .close).reporter = (d.reporter.close d.host).2.1 ∧
      ((d.run moves).step .close).host = (d.reporter.close d.host).2.2 ∧
      ((d.run moves).step .close).closing = .returned := by
  obtain ⟨moves, late, leaving, reporter, host⟩ := leaves_shut d begun
  refine ⟨moves ++ [.close], by simp [Move.isLate, late], ?_⟩
  simp only [run_append, run_cons, run_nil, step, closeStep, leaving, RemoteReporter.close, closed,
    RemoteReporter.closeSender, reporter, host]
  exact ⟨(fun e => by cases e), rfl, rfl, trivial⟩

end Delivery

end Tracing
