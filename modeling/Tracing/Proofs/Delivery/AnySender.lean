import Tracing.Delivery.AnySender
import Tracing.Proofs.Delivery.Transition
/-!
What the reporter books of a reply, and deliveries over its own senders as runs over any sender.
-/

set_option autoImplicit false
set_option relaxedAutoImplicit false

namespace Tracing

namespace Reply

/-- The sender raises and names a loss below zero, and losses are counted. -/
def Undercuts (p : Reply) (metered : Bool) : Prop :=
  metered = true ∧ ∃ text loss cause,
    p.answer = .error (.failure (.sender text loss cause)) ∧ loss < 0

/-- A number below zero that a sender answers is booked as a fault that names no loss. -/
theorem outcome_eq_sender {p : Reply} {metered : Bool} {text : String} {loss : Int}
    {cause : Option Cause} :
    p.outcome metered = .error (.failure (.sender text loss cause)) ↔
      p.answer = .error (.failure (.sender text loss cause)) := by
  unfold outcome
  split
  case h_1 f answer => rw [answer, Except.error.injEq, Except.error.injEq]
  case h_2 n answer =>
    rw [answer]
    constructor
    · intro booked
      split at booked <;> cases booked
    · intro raised
      cases raised

end Reply

namespace Handling

@[simp] theorem run_nil (s : Handling) : s.run [] = s := rfl

@[simp] theorem run_cons (s : Handling) (event : Event) (events : List Event) :
    s.run (event :: events) = (s.step event).run events := rfl

theorem run_append (s : Handling) (before after : List Event) :
    s.run (before ++ after) = (s.run before).run after :=
  List.foldl_append ..

end Handling

section Own

/-- What a sender of the reporter's own does when it answers a number of spans. -/
def Reply.own (result : Except Fault Nat × Sender × Host) : Reply where
  answer := result.1.map Int.ofNat
  sender := result.2.1
  notices := result.2.2.notices
  network := result.2.2.network

/-- What a sender of the reporter's own does when it takes its buffer as a batch. -/
def Reply.ownBatch (taken : List Span × Sender) (h : Host) : Reply where
  answer := .ok 0
  sender := taken.2
  batch := taken.1
  notices := h.notices
  network := h.network

private theorem Reply.outcome_own (result : Except Fault Nat × Sender × Host) (metered : Bool) :
    (Reply.own result).outcome metered = result.1 := by
  obtain ⟨answer, sender, host⟩ := result
  cases answer with
  | error f => rfl
  | ok n => cases metered <;> rfl

private theorem Sender.leave_sendBatch (s : Sender) (batch : List Span) (h : Host) :
    (Reply.own (s.sendBatch batch h)).leave h = (s.sendBatch batch h).2.2 := by
  cases s with
  | noop => rfl
  | buffered box t =>
    simp only [sendBatch]
    split <;> rfl

private theorem Sender.leave_finishClose (s : Sender) (batch : List Span) (h : Host) :
    (Reply.own (s.finishClose batch h)).leave h = (s.finishClose batch h).2.2 := by
  unfold finishClose
  split
  · rfl
  · dsimp only
    split
    · rfl
    · exact leave_sendBatch s batch h

private theorem RemoteReporter.closeWith_own (r : RemoteReporter) (batch : List Span) (h : Host) :
    r.closeWith (.own (r.sender.finishClose batch h)) h = r.finishRelease batch h := by
  unfold closeWith finishRelease
  dsimp only
  rw [Sender.leave_finishClose, Reply.outcome_own]
  rfl

end Own

namespace RemoteReporter

variable {r : RemoteReporter} (p : Reply) (h : Host)

theorem workWith_of_bound {command : Command} (worker : r.worker = .bound command) :
    r.workWith p h = r.startWith command p h := by
  simp [workWith, worker]

theorem workWith_of_kept (worker : r.worker = .appending 0) :
    r.workWith p h = r.conclude .append (.ok 0) h := by
  simp [workWith, worker]

theorem workWith_of_due {due : Nat} (worker : r.worker = .appending due) (full : due ≠ 0) :
    r.workWith p h =
      ({ r with sender := p.sender, worker := .sending .append p.batch }, p.leave h) := by
  simp [workWith, worker, full]

theorem workWith_of_sending {kind : CommandKind} {batch : List Span}
    (worker : r.worker = .sending kind batch) : r.workWith p h =
      { r with sender := p.sender }.conclude kind (p.outcome r.metered) (p.leave h) := by
  simp [workWith, worker]

end RemoteReporter

namespace Handling

variable (s : Handling)

private theorem run_work_own {p : Reply}
    (same : s.delivery.reporter.workWith p s.delivery.host =
      s.delivery.reporter.proceed s.delivery.host) :
    (s.run [.work p]).delivery = s.delivery.step .proceed := by
  simp only [run_cons, run_nil, step, Delivery.step, Delivery.work, Delivery.act, same]

/-- A flush that is under way goes on as one that the reporter's own sender starts: with nothing to
send it is over at once. -/
private theorem exists_run_flush (p : Reply) (kind : CommandKind)
    (lets : s.delivery.reporter.worker.forsakes s.delivery.reporter.abandoned = [])
    (idle : s.delivery.reporter.worker.inFlight = [])
    (flushes : s.delivery.reporter.proceed s.delivery.host =
      s.delivery.reporter.startFlush kind s.delivery.host)
    (starts : s.delivery.reporter.workWith p s.delivery.host =
      ({ s.delivery.reporter with
          sender := s.delivery.reporter.sender.startFlush.2
          worker := .sending kind s.delivery.reporter.sender.startFlush.1 }, s.delivery.host)) :
    ∃ events, (s.run events).delivery = s.delivery.step .proceed := by
  cases empty : s.delivery.reporter.sender.startFlush.1.isEmpty with
  | false =>
    refine ⟨[.work p], s.run_work_own ?_⟩
    rw [starts, flushes]
    simp only [RemoteReporter.startFlush, empty, Bool.false_eq_true, if_false]
  | true =>
    have none := List.isEmpty_iff.mp empty
    rw [none] at starts
    let taken : RemoteReporter :=
      { s.delivery.reporter with
        sender := s.delivery.reporter.sender.startFlush.2, worker := .sending kind [] }
    let q : Reply := .own (.ok 0, taken.sender, s.delivery.host)
    have under : (s.step (.work p)).delivery = { s.delivery with reporter := taken } := by
      simp [step, Delivery.work, Delivery.act, starts, lets, idle, batchOf, taken]
    have ends : taken.workWith q s.delivery.host =
        s.delivery.reporter.startFlush kind s.delivery.host := by
      simp only [RemoteReporter.startFlush, empty, if_true]
      simp only [RemoteReporter.workWith, taken, q, Reply.outcome_own]
      rfl
    refine ⟨[.work p, .work q], ?_⟩
    change (s.step (.work p)).delivery.work (·.workWith q) = s.delivery.work RemoteReporter.proceed
    rw [under]
    have lets' : taken.worker.forsakes taken.abandoned = [] := rfl
    have idle' : taken.worker.inFlight = [] := rfl
    simp only [Delivery.work, Delivery.act, ends, flushes, lets, idle, lets', idle']

private theorem exists_run_start {command : Command}
    (worker : s.delivery.reporter.worker = .bound command) :
    ∃ events, (s.run events).delivery = s.delivery.step .proceed := by
  have lets : s.delivery.reporter.worker.forsakes s.delivery.reporter.abandoned = [] := by
    rw [worker]
    rfl
  have idle : s.delivery.reporter.worker.inFlight = [] := by rw [worker]; rfl
  have proceeds : s.delivery.reporter.proceed s.delivery.host =
      s.delivery.reporter.start command s.delivery.host := by
    simp [RemoteReporter.proceed, worker]
  have works (p : Reply) := RemoteReporter.workWith_of_bound p s.delivery.host worker
  cases command with
  | append span =>
    let appended := s.delivery.reporter.sender.append span
    refine ⟨[.work (.own (appended.1, appended.2, s.delivery.host))], s.run_work_own ?_⟩
    rw [works, proceeds]
    unfold RemoteReporter.startWith RemoteReporter.start
    dsimp only
    cases answer : s.delivery.reporter.sender.append span with
    | mk result sender => cases result <;> simp only [appended, answer] <;> rfl
  | flush | close =>
    exact s.exists_run_flush (.ownBatch s.delivery.reporter.sender.startFlush s.delivery.host) _
      lets idle proceeds (works _)

private theorem exists_run_proceed :
    ∃ events, (s.run events).delivery = s.delivery.step .proceed := by
  let p : Reply := .ownBatch s.delivery.reporter.sender.startFlush s.delivery.host
  cases worker : s.delivery.reporter.worker with
  | waiting =>
    refine ⟨[], ?_⟩
    simp [Delivery.step, Delivery.work, Delivery.act, RemoteReporter.proceed, worker,
      Worker.forsakes, Worker.inFlight, batchOf]
  | looking | holding | ended =>
    exact ⟨[.work p], s.run_work_own (by simp [RemoteReporter.workWith, worker])⟩
  | bound command => exact s.exists_run_start worker
  | appending due =>
    by_cases full : due = 0
    · refine ⟨[.work p], s.run_work_own ?_⟩
      simp [RemoteReporter.workWith, RemoteReporter.proceed, worker, full]
    · refine s.exists_run_flush p .append (by rw [worker]; rfl)
        (by rw [worker]; rfl) ?_ ?_
      · simp [RemoteReporter.proceed, worker, full]
      · exact RemoteReporter.workWith_of_due p s.delivery.host worker full
  | sending kind batch =>
    refine ⟨[.work (.own (s.delivery.reporter.sender.sendBatch batch s.delivery.host))],
      s.run_work_own ?_⟩
    rw [RemoteReporter.workWith_of_sending _ _ worker, Reply.outcome_own, Sender.leave_sendBatch]
    simp only [RemoteReporter.proceed, worker, RemoteReporter.transmit]
    rfl

private theorem exists_run_take :
    ∃ events, (s.run events).delivery = s.delivery.step .take := by
  cases worker : s.delivery.reporter.worker with
  | waiting =>
    refine ⟨[.work (.ownBatch s.delivery.reporter.sender.startFlush s.delivery.host)], ?_⟩
    simp [step, Delivery.step, Delivery.work, Delivery.act, RemoteReporter.workWith, worker,
      Worker.forsakes, Worker.inFlight, batchOf]
  | looking | holding | bound | appending | sending | ended =>
    refine ⟨[], ?_⟩
    simp [Delivery.step, Delivery.act, RemoteReporter.take, worker]

private theorem exists_run_close :
    ∃ events, (s.run events).delivery = s.delivery.step .close := by
  let p : Reply := .ownBatch s.delivery.reporter.sender.startClose s.delivery.host
  cases closing : s.delivery.closing with
  | releasing batch =>
    refine ⟨[.close (.own (s.delivery.reporter.sender.finishClose batch s.delivery.host))], ?_⟩
    have closed := s.delivery.reporter.closeWith_own batch s.delivery.host
    simp only [run_cons, run_nil, step, closeStep, closing, closed, Delivery.step,
      Delivery.closeStep]
  | leaving =>
    refine ⟨[.close p], ?_⟩
    simp only [run_cons, run_nil, step, closeStep, closing, Delivery.step, Delivery.closeStep]
    rfl
  | notBegun | entering | waiting | late | resigning | draining | waking | returned =>
    refine ⟨[.close p], ?_⟩
    simp only [run_cons, run_nil, step, closeStep, closing, Delivery.step]

/-- Every move of a delivery is some events over its own sender. -/
theorem exists_run_step (move : Move) :
    ∃ events, (s.run events).delivery = s.delivery.step move := by
  cases move with
  | report span => exact ⟨[.report span], rfl⟩
  | flush => exact ⟨[.flush], rfl⟩
  | take => exact s.exists_run_take
  | proceed => exact s.exists_run_proceed
  | close => exact s.exists_run_close

/-- Deliveries over the reporter's own senders are runs over any sender. -/
theorem exists_run (moves : List Move) :
    ∃ events, (s.run events).delivery = s.delivery.run moves := by
  induction moves generalizing s with
  | nil => exact ⟨[], rfl⟩
  | cons move rest ih =>
    obtain ⟨first, stepped⟩ := s.exists_run_step move
    obtain ⟨later, ran⟩ := ih (s.run first)
    refine ⟨first ++ later, ?_⟩
    rw [run_append, ran, stepped, Delivery.run_cons]

end Handling

end Tracing
