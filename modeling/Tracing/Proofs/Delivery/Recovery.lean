import Tracing.Proofs.Delivery.Containment
/-!
What a worker tells about its commands. For each kind of command apart, it logs a failure when the
last command of the kind did not fail, and a recovery when it did; in between it says nothing, but
counts every loss.
-/

set_option autoImplicit false
set_option relaxedAutoImplicit false

namespace Tracing

open Metrics (Instrument)

/-- A command that was executed, by its kind, and how it ended. -/
abbrev Verdict := CommandKind × Except Fault Nat

def lastFailed (kind : CommandKind) (verdicts : List Verdict) : Bool :=
  match (verdicts.filter (·.1 == kind)).getLast? with
  | some (_, .error _) => true
  | _ => false

namespace Notice

/-- Whether an event tells that commands of a kind fail, or that they work again. -/
def tells (kind : CommandKind) : Notice → Bool
  | commandFailed k _ _ | commandRaised k _ | commandRecovered k => k == kind
  | _ => false

/-- The events of a log that tell how the commands of a kind fare. -/
def bulletins (kind : CommandKind) (log : List Notice) : List Notice := log.filter (tells kind)

/-- Failures and recoveries of a kind that take turns, beginning with a failure; and whether the
last one is a failure. -/
inductive Alternating (kind : CommandKind) : List Notice → Bool → Prop
  | silent : Alternating kind [] false
  | fails {said : List Notice} (lost : Int) (fault : Fault) : Alternating kind said false →
      Alternating kind (said ++ [RemoteReporter.failureNotice kind lost fault]) true
  | recovers {said : List Notice} : Alternating kind said true →
      Alternating kind (said ++ [.commandRecovered kind]) false

private theorem tells_failureNotice (kind k : CommandKind) (lost : Int) (fault : Fault) :
    (RemoteReporter.failureNotice k lost fault).tells kind = (k == kind) := by
  unfold RemoteReporter.failureNotice
  split <;> rfl

end Notice

open Notice (bulletins Alternating)

/-- What a worker says of a command, given whether the last one of its kind failed. -/
def bulletin (kind : CommandKind) (failed : Bool) : Except Fault Nat → List Notice
  | .ok _ => if failed then [.commandRecovered kind] else []
  | .error f =>
    if failed then []
    else [RemoteReporter.failureNotice kind (RemoteReporter.lostSpans kind f) f]

def loss (kind : CommandKind) : Except Fault Nat → Int
  | .ok _ => 0
  | .error f => RemoteReporter.lostSpans kind f

/-- A sender that raises names no loss below zero. -/
def Reply.IsFair (p : Reply) : Prop :=
  ∀ text lost cause, p.answer = .error (.failure (.sender text lost cause)) → 0 ≤ lost

private theorem Worker.kind?_after (kind : CommandKind) : (after kind).kind? = none := by
  cases kind <;> rfl

section Sayings

variable {kind : CommandKind} {said : List Notice}

private theorem lastFailed_concat (verdicts : List Verdict) (k : CommandKind)
    (outcome : Except Fault Nat) :
    lastFailed kind (verdicts ++ [(k, outcome)]) =
      if k = kind then !outcome.isOk else lastFailed kind verdicts := by
  unfold lastFailed
  rw [List.filter_append]
  by_cases same : k = kind
  · cases outcome <;> simp [same, Except.isOk, Except.toBool]
  · simp [same]

theorem bulletins_append (log more : List Notice) :
    bulletins kind (log ++ more) = bulletins kind log ++ bulletins kind more :=
  List.filter_append ..

private theorem bulletins_log {h : Host} {n : Notice} (kind : CommandKind)
    (apart : n.tells kind = false) :
    bulletins kind (h.log n).notices = bulletins kind h.notices := by
  simp [bulletins, Host.log, apart]

theorem bulletins_bulletin (k : CommandKind) (failed : Bool) (outcome : Except Fault Nat) :
    bulletins kind (bulletin k failed outcome) =
      if k = kind then bulletin k failed outcome else [] := by
  cases outcome with
  | ok =>
    by_cases same : k = kind <;> cases failed <;>
      simp [bulletin, bulletins, Notice.tells, same]
  | error =>
    by_cases same : k = kind <;> cases failed <;>
      simp [bulletin, bulletins, Notice.tells_failureNotice, same]

theorem Notice.Alternating.say {failed : Bool} (before : Alternating kind said failed)
    (outcome : Except Fault Nat) :
    Alternating kind (said ++ bulletin kind failed outcome) (!outcome.isOk) := by
  cases outcome with
  | ok =>
    cases failed with
    | true => exact .recovers before
    | false => simpa [bulletin, Except.isOk, Except.toBool] using before
  | error f =>
    cases failed with
    | true => simpa [bulletin, Except.isOk, Except.toBool] using before
    | false => exact .fails _ f before

end Sayings

namespace Host

variable {h h' : Host} {metered : Bool} {i : Instrument}

@[simp] theorem notices_count (n : Nat) : (h.count metered i n).notices = h.notices := by
  unfold count
  split <;> rfl

@[simp] theorem notices_gauge (n : Int) : (h.gauge metered i n).notices = h.notices := by
  unfold gauge
  split <;> rfl

theorem notices_of_count? {n : Int} (counted : h.count? metered i n = some h') :
    h'.notices = h.notices := by
  unfold count? at counted
  split at counted
  · split at counted
    · cases counted
    · cases counted
      rfl
  · cases counted
    rfl

end Host

namespace RemoteReporter

section Log

variable (r : RemoteReporter) (h : Host)

theorem notices_offer (span : Span) : (r.offer span h).2.notices = h.notices := by
  unfold offer
  split <;> simp

theorem notices_tick : (r.tick h).2.notices = h.notices := by
  unfold tick
  dsimp only
  split <;> simp

private theorem bulletins_bookThrown (thrown : Nat) (kind : CommandKind) :
    bulletins kind (r.bookThrown thrown h).notices = bulletins kind h.notices := by
  unfold bookThrown
  split
  · rfl
  · rw [bulletins_log kind rfl, Host.notices_count]

private theorem bulletins_closeWith (p : Reply) (kind : CommandKind) :
    bulletins kind (r.closeWith p h).2.2.notices = bulletins kind p.notices := by
  unfold closeWith
  dsimp only
  split
  case h_1 => simp [Reply.leave]
  case h_2 =>
    split
    case h_1 => rfl
    case h_2 host counted =>
      rw [Host.notices_gauge, bulletins_log kind rfl, Host.notices_of_count? counted]
      rfl
  case h_3 =>
    rw [Host.notices_gauge, bulletins_log kind rfl]
    rfl

end Log

/-- The command that the next step of the worker ends, and how. -/
def verdict? (r : RemoteReporter) (p : Reply) : Option Verdict :=
  match r.worker with
  | .bound (.append _) =>
    match p.answer with
    | .error f => some (.append, .error f)
    | .ok _ => none
  | .appending due => if due = 0 then some (.append, .ok 0) else none
  | .sending kind _ => some (kind, p.outcome r.metered)
  | _ => none

variable {r : RemoteReporter} {p : Reply} {h : Host}

private theorem workWith_of_idle (idle : r.worker.kind? = none) (next : r.next? = none) :
    (r.workWith p h).2 = h ∧ (r.workWith p h).1.failing = r.failing ∧
      (r.workWith p h).1.worker.kind? = none ∧ r.verdict? p = none := by
  have host : (r.workWith p h).2 = h := by
    unfold workWith
    split
    case h_1 =>
      unfold take
      split <;> rfl
    case h_2 worker => simp [next?, worker] at next
    case h_3 worker => simp [worker, Worker.kind?] at idle
    case h_4 worker => simp [worker, Worker.kind?] at idle
    all_goals
      rename_i worker
      simp [proceed, worker]
  have silent : r.verdict? p = none := by
    unfold verdict?
    split
    case h_1 worker => simp [next?, worker] at next
    case h_2 worker => simp [worker, Worker.kind?] at idle
    case h_3 worker => simp [worker, Worker.kind?] at idle
    case h_4 => rfl
  have worked := worked_workWith r p h
  have between : (r.workWith p h).1.failing = r.failing ∧
      (r.workWith p h).1.worker.kind? = none := by
    generalize (r.workWith p h).1 = r' at worked ⊢
    cases worked with
    | idle => exact ⟨rfl, idle⟩
    | take | look | stop | bind | quit => exact ⟨rfl, rfl⟩
    | start worker => simp [next?, worker] at next
    | goOn worker | lose worker => simp [worker, Worker.kind?] at idle
    | finish busy => simp [idle] at busy
  exact ⟨host, between.1, between.2, silent⟩

private theorem workWith_of_verdict {kind : CommandKind} {outcome : Except Fault Nat}
    (ends : r.verdict? p = some (kind, outcome)) :
    ∃ (r' : RemoteReporter) (h' : Host), r.workWith p h = r'.conclude kind outcome h' ∧
      r'.failing = r.failing ∧ r'.metered = r.metered ∧ (h' = h ∨ h' = p.leave h) := by
  unfold verdict? at ends
  split at ends
  case h_1 span worker =>
    split at ends
    case h_1 f answer =>
      cases ends
      refine ⟨{ r with sender := p.sender }, p.leave h, ?_, rfl, rfl, .inr rfl⟩
      rw [workWith_of_bound p h worker]
      simp only [startWith, answer]
    case h_2 => cases ends
  case h_2 due worker =>
    split at ends
    case isTrue none =>
      cases ends
      subst none
      exact ⟨r, h, workWith_of_kept p h worker, rfl, rfl, .inl rfl⟩
    case isFalse => cases ends
  case h_3 k batch worker =>
    cases ends
    exact ⟨{ r with sender := p.sender }, p.leave h, workWith_of_sending p h worker, rfl, rfl,
      .inr rfl⟩
  case h_4 => cases ends

private theorem loss_nonneg {kind : CommandKind} {outcome : Except Fault Nat}
    (ends : r.verdict? p = some (kind, outcome)) (fair : p.IsFair) : 0 ≤ loss kind outcome := by
  cases outcome with
  | ok => exact Int.le_refl 0
  | error f =>
    by_contra below
    obtain ⟨other, text, lost, cause, rfl, negative⟩ := sender_of_lostSpans (Int.not_le.mp below)
    unfold verdict? at ends
    split at ends
    case h_1 =>
      split at ends
      · cases ends
        exact other rfl
      · cases ends
    case h_2 => split at ends <;> cases ends
    case h_3 k batch worker =>
      simp only [Option.some.injEq, Prod.mk.injEq] at ends
      have answer := Reply.outcome_eq_sender.mp ends.2
      exact absurd (fair text lost cause answer) (Int.not_le.mpr negative)
    case h_4 => cases ends

private theorem workWith_of_silent (silent : r.verdict? p = none) :
    (r.workWith p h).1.failing = r.failing ∧
      ((r.workWith p h).2 = h ∨ (r.workWith p h).2 = p.leave h) := by
  have between (idle : r.worker.kind? = none) (next : r.next? = none) :
      (r.workWith p h).1.failing = r.failing ∧
        ((r.workWith p h).2 = h ∨ (r.workWith p h).2 = p.leave h) := by
    obtain ⟨host, failing, -, -⟩ := workWith_of_idle (p := p) (h := h) idle next
    exact ⟨failing, .inl host⟩
  cases worker : r.worker with
  | looking | waiting | holding | ended =>
    exact between (by rw [worker]; rfl) (by simp [next?, worker])
  | sending kind batch => simp [verdict?, worker] at silent
  | appending due =>
    have full : due ≠ 0 := by
      rintro rfl
      simp [verdict?, worker] at silent
    rw [workWith_of_due p h worker full]
    exact ⟨rfl, .inr rfl⟩
  | bound command =>
    rw [workWith_of_bound p h worker]
    cases command with
    | flush | close => exact ⟨rfl, .inr rfl⟩
    | append span =>
      cases answer : p.answer with
      | error f => simp [verdict?, worker, answer] at silent
      | ok due =>
        simp only [startWith, answer]
        exact ⟨trivial, .inr trivial⟩

theorem kind?_conclude (r : RemoteReporter) (kind : CommandKind)
    (outcome : Except Fault Nat) (h : Host) :
    (r.conclude kind outcome h).1.worker.kind? = none := by
  cases outcome with
  | ok sent => exact Worker.kind?_after kind
  | error f =>
    unfold conclude
    dsimp only
    split
    · rfl
    · exact Worker.kind?_after kind

private theorem kind?_workWith (r : RemoteReporter) (p : Reply) (h : Host) :
    r.worker.kind?.toList ++ r.next?.toList.map Command.kind =
      (r.verdict? p).toList.map Prod.fst ++ (r.workWith p h).1.worker.kind?.toList := by
  have between (idle : r.worker.kind? = none) (next : r.next? = none) :
      r.worker.kind?.toList ++ r.next?.toList.map Command.kind =
        (r.verdict? p).toList.map Prod.fst ++ (r.workWith p h).1.worker.kind?.toList := by
    obtain ⟨-, -, kind, silent⟩ := workWith_of_idle (p := p) (h := h) idle next
    rw [idle, next, kind, silent]
    rfl
  cases worker : r.worker with
  | looking | waiting | holding | ended =>
    rw [← worker]
    exact between (by rw [worker]; rfl) (by simp [next?, worker])
  | sending kind batch =>
    rw [workWith_of_sending p h worker, kind?_conclude]
    simp [verdict?, next?, worker, Worker.kind?]
  | appending due =>
    by_cases none : due = 0
    · subst none
      rw [workWith_of_kept p h worker, kind?_conclude]
      simp [verdict?, next?, worker, Worker.kind?]
    · rw [workWith_of_due p h worker none]
      simp [verdict?, next?, worker, none, Worker.kind?]
  | bound command =>
    rw [workWith_of_bound p h worker]
    cases command with
    | flush | close => simp [verdict?, next?, worker, startWith, Command.kind, Worker.kind?]
    | append span =>
      cases answer : p.answer with
      | error f =>
        simp only [startWith, answer, kind?_conclude]
        simp [verdict?, next?, worker, answer, Command.kind, Worker.kind?]
      | ok due => simp [verdict?, next?, worker, startWith, answer, Command.kind, Worker.kind?]

/-- What booking an outcome does, unless its loss is below zero. -/
theorem conclude_eq (kind : CommandKind) (outcome : Except Fault Nat)
    (fair : 0 ≤ loss kind outcome) :
    (r.conclude kind outcome h).1.failing = r.failing.set kind (!outcome.isOk) ∧
      (r.conclude kind outcome h).2.notices =
        h.notices ++ bulletin kind (r.failing.get kind) outcome ∧
      (r.conclude kind outcome h).2.tally.get .reporterFailure =
        h.tally.get .reporterFailure + Delivery.weight r.metered (loss kind outcome) := by
  cases outcome with
  | ok sent =>
    refine ⟨rfl, ?_, ?_⟩
    · cases failing : r.failing.get kind <;> simp [conclude, bulletin, failing, Host.log]
    · simp only [conclude]
      split <;> simp [loss, Delivery.weight]
  | error f =>
    cases counted : h.count? r.metered .reporterFailure (lostSpans kind f) with
    | none =>
      have negative := (Host.count?_eq_none.mp counted).2
      exact absurd fair (Int.not_le.mpr negative)
    | some host =>
      have failure := Host.get_of_count?_eq_some counted .reporterFailure
      have log : host.notices = h.notices := Host.notices_of_count? counted
      simp only [conclude, counted]
      refine ⟨rfl, ?_, ?_⟩
      · cases failing : r.failing.get kind <;> simp [bulletin, Host.log, log]
      · have same : ((if r.failing.get kind then host else
            host.log (failureNotice kind (lostSpans kind f) f)).tally) = host.tally := by
          split <;> rfl
        rw [same, failure]
        simp [loss, Delivery.weight]

end RemoteReporter

namespace Handling

def log (s : Handling) : List Notice := s.delivery.host.notices

def verdict? (s : Handling) : Event → Option Verdict
  | .work p => s.delivery.reporter.verdict? p
  | _ => none

/-- The commands that are executed in a run, in order. -/
def verdicts (s : Handling) : List Event → List Verdict
  | [] => []
  | event :: rest => (s.verdict? event).toList ++ (s.step event).verdicts rest

/-- A sender writes to the log, or takes from it, what the worker tells. -/
def Meddles (s : Handling) : Event → Prop
  | .work p | .close p => ∃ kind, bulletins kind p.notices ≠ bulletins kind s.log
  | _ => False

variable {s : Handling} {kind : CommandKind} {before : List Notice} {done : List Verdict}

private theorem not_meddles {p : Reply} (kept : p.notices = s.log) : ¬ s.Meddles (.work p) :=
  fun ⟨_, differs⟩ => differs (by rw [kept])

/-- What was logged about a kind of command since a log was `before`, and what the reporter
remembers of the kind, after some executed commands. -/
structure Tells (s : Handling) (kind : CommandKind) (before : List Notice)
    (done : List Verdict) : Prop where
  remembers : s.delivery.reporter.failing.get kind = lastFailed kind done
  told : ∃ said, bulletins kind s.log = bulletins kind before ++ said ∧
    Alternating kind said (lastFailed kind done)

/-- What one executed command adds to the log and to the counter of failures. -/
structure Booked (s : Handling) (k : CommandKind) (outcome : Except Fault Nat)
    (s' : Handling) : Prop where
  failing : s'.delivery.reporter.failing =
    s.delivery.reporter.failing.set k (!outcome.isOk)
  log : ∀ kind, bulletins kind s'.log =
    bulletins kind s.log ++
      if k = kind then bulletin k (s.delivery.reporter.failing.get k) outcome else []
  counted : s'.delivery.host.tally.get .reporterFailure =
    s.delivery.host.tally.get .reporterFailure +
      Delivery.weight s.delivery.reporter.metered (loss k outcome)

private theorem bulletins_leave {p : Reply} (apart : ¬ s.Meddles (.work p)) {h : Host}
    (left : h = s.delivery.host ∨ h = p.leave s.delivery.host) (kind : CommandKind) :
    bulletins kind h.notices = bulletins kind s.log := by
  rcases left with rfl | rfl
  · rfl
  · by_contra differs
    exact apart ⟨kind, differs⟩

private theorem booked_work {p : Reply} {k : CommandKind} {outcome : Except Fault Nat}
    (ends : s.delivery.reporter.verdict? p = some (k, outcome)) (fair : p.IsFair)
    (apart : ¬ s.Meddles (.work p)) : s.Booked k outcome (s.step (.work p)) := by
  obtain ⟨r, h, worked, failing, metered, left⟩ :=
    RemoteReporter.workWith_of_verdict (h := s.delivery.host) ends
  have tally : h.tally = s.delivery.host.tally := by rcases left with rfl | rfl <;> rfl
  have same := bulletins_leave apart left
  obtain ⟨set, log, counted⟩ :=
    RemoteReporter.conclude_eq (r := r) (h := h) k outcome (RemoteReporter.loss_nonneg ends fair)
  rw [← worked] at set log counted
  rw [failing] at set log
  rw [tally, metered] at counted
  refine ⟨set, fun kind => ?_, counted⟩
  have logged : (s.step (.work p)).log = h.notices ++
      bulletin k (s.delivery.reporter.failing.get k) outcome := log
  rw [logged, bulletins_append, same kind, bulletins_bulletin]

private theorem bulletins_close {p : Reply} (apart : ¬ s.Meddles (.close p)) (kind : CommandKind) :
    bulletins kind (s.closeStep p).log = bulletins kind s.log := by
  have left : bulletins kind p.notices = bulletins kind s.log := by
    by_contra differs
    exact apart ⟨kind, differs⟩
  unfold closeStep Delivery.closeStep
  cases closing : s.delivery.closing with
  | notBegun | waiting | resigning | waking | returned => rfl
  | entering =>
    dsimp only
    split
    · exact bulletins_log kind rfl
    · rfl
  | late => exact bulletins_log kind rfl
  | draining given thrown =>
    dsimp only
    unfold Delivery.drainStep
    split
    · rfl
    · exact RemoteReporter.bulletins_bookThrown ..
  | leaving => exact left
  | releasing batch => exact (RemoteReporter.bulletins_closeWith ..).trans left

private theorem bulletins_of_silent {event : Event} (silent : s.verdict? event = none)
    (apart : ¬ s.Meddles event) :
    (s.step event).delivery.reporter.failing = s.delivery.reporter.failing ∧
      ∀ kind, bulletins kind (s.step event).log = bulletins kind s.log := by
  cases event with
  | report span =>
    obtain ⟨queue, same⟩ := s.reporter_report span
    have log : (s.step (.report span)).log = s.log :=
      s.delivery.reporter.notices_offer s.delivery.host span
    exact ⟨by rw [same], fun kind => by rw [log]⟩
  | flush =>
    obtain ⟨queue, same⟩ := s.reporter_flush
    have log : (s.step .flush).log = s.log := s.delivery.reporter.notices_tick s.delivery.host
    exact ⟨by rw [same], fun kind => by rw [log]⟩
  | work p =>
    obtain ⟨failing, left⟩ := RemoteReporter.workWith_of_silent (h := s.delivery.host) silent
    exact ⟨failing, fun kind => bulletins_leave apart left kind⟩
  | close p =>
    refine ⟨?_, bulletins_close apart⟩
    have closes : s.Closes p (s.step (.close p)) := closes_closeStep s p
    generalize s.step (.close p) = s' at closes ⊢
    cases closes <;> rfl

private theorem Tells.step (tells : s.Tells kind before done) (event : Event)
    (fair : ∀ p, event = .work p → p.IsFair) (apart : ¬ s.Meddles event) :
    (s.step event).Tells kind before (done ++ (s.verdict? event).toList) := by
  cases ends : s.verdict? event with
  | none =>
    obtain ⟨failing, log⟩ := bulletins_of_silent ends apart
    rw [Option.toList_none, List.append_nil]
    exact ⟨failing ▸ tells.remembers, log kind ▸ tells.told⟩
  | some verdict =>
    obtain ⟨k, outcome⟩ := verdict
    obtain ⟨said, told, turns⟩ := tells.told
    cases event with
    | report | flush | close => cases ends
    | work p =>
      have booked := booked_work ends (fair p rfl) apart
      have log := booked.log kind
      rw [told] at log
      rw [Option.toList_some]
      constructor
      · rw [booked.failing, Failing.get_set, lastFailed_concat, tells.remembers]
      · rw [lastFailed_concat]
        by_cases same : k = kind
        · subst same
          rw [if_pos rfl, tells.remembers, List.append_assoc] at log
          rw [if_pos rfl]
          exact ⟨_, log, turns.say outcome⟩
        · rw [if_neg same, List.append_nil] at log
          rw [if_neg same]
          exact ⟨said, log, turns⟩

private theorem Tells.run (tells : s.Tells kind before done) {events : List Event}
    (fair : ∀ p, .work p ∈ events → p.IsFair) (apart : ¬ Meets Meddles s events) :
    (s.run events).Tells kind before (done ++ s.verdicts events) := by
  induction events generalizing s done with
  | nil => simpa [verdicts] using tells
  | cons event rest ih =>
    rw [Meets, not_or] at apart
    have next := tells.step event (fun p same => fair p (same ▸ List.mem_cons_self)) apart.1
    have later := ih next (fun p m => fair p (List.mem_cons_of_mem _ m)) apart.2
    rw [List.append_assoc] at later
    exact later

/-- The commands that were executed are those that the worker started, but for the one that it is
in. -/
def Executes (s : Handling) (done : List Verdict) : Prop :=
  s.started.map Command.kind = done.map Prod.fst ++ s.delivery.reporter.worker.kind?.toList

private theorem Executes.step (executes : s.Executes done) (event : Event) :
    (s.step event).Executes (done ++ (s.verdict? event).toList) := by
  have still (worker : (s.step event).delivery.reporter.worker = s.delivery.reporter.worker)
      (started : (s.step event).started = s.started) (silent : s.verdict? event = none) :
      (s.step event).Executes (done ++ (s.verdict? event).toList) := by
    rw [silent, Option.toList_none, List.append_nil]
    unfold Executes
    rw [started, worker]
    exact executes
  cases event with
  | report span =>
    obtain ⟨queue, same⟩ := s.reporter_report span
    exact still (by rw [same]) rfl rfl
  | flush =>
    obtain ⟨queue, same⟩ := s.reporter_flush
    exact still (by rw [same]) rfl rfl
  | work p =>
    have kinds := s.delivery.reporter.kind?_workWith p s.delivery.host
    change (s.started ++ s.delivery.reporter.next?.toList).map Command.kind =
      (done ++ (s.delivery.reporter.verdict? p).toList).map Prod.fst ++
        (s.delivery.reporter.workWith p s.delivery.host).1.worker.kind?.toList
    rw [List.map_append, executes, List.map_append, List.append_assoc, kinds, List.append_assoc]
  | close p =>
    have closes : s.Closes p (s.step (.close p)) := closes_closeStep s p
    have parts : (s.step (.close p)).delivery.reporter.worker = s.delivery.reporter.worker ∧
        (s.step (.close p)).started = s.started := by
      generalize s.step (.close p) = s' at closes ⊢
      cases closes <;> exact ⟨rfl, rfl⟩
    exact still parts.1 parts.2 rfl

private theorem Executes.run (executes : s.Executes done) (events : List Event) :
    (s.run events).Executes (done ++ s.verdicts events) := by
  induction events generalizing s done with
  | nil => simpa [verdicts] using executes
  | cons event rest ih =>
    have later := ih (executes.step event)
    rw [List.append_assoc] at later
    exact later

/-- How the commands of a kind fare in a run, and what is told of it. -/
structure Recovers (s : Handling) (events : List Event) (kind : CommandKind) : Prop where
  executes : (s.run events).Executes (s.verdicts events)
  /-- Failures and recoveries take turns, beginning with a failure. -/
  takesTurns : ∃ said, bulletins kind (s.run events).log = bulletins kind s.log ++ said ∧
    Alternating kind said (lastFailed kind (s.verdicts events))
  /-- A failure is logged if and only if the last command of the kind did not fail. -/
  failed : ∀ (before after : List Event) (p : Reply) (f : Fault),
    events = before ++ .work p :: after →
      (s.run before).verdict? (.work p) = some (kind, .error f) →
        bulletins kind ((s.run before).step (.work p)).log = bulletins kind (s.run before).log ++
          if lastFailed kind (s.verdicts before) then []
          else [RemoteReporter.failureNotice kind (RemoteReporter.lostSpans kind f) f]
  /-- Every failure is counted with its loss, logged or not. -/
  counted : ∀ (before after : List Event) (p : Reply) (f : Fault),
    events = before ++ .work p :: after →
      (s.run before).verdict? (.work p) = some (kind, .error f) →
        ((s.run before).step (.work p)).delivery.host.tally.get .reporterFailure =
          (s.run before).delivery.host.tally.get .reporterFailure +
            Delivery.weight s.delivery.reporter.metered (RemoteReporter.lostSpans kind f)
  /-- A command that works is told of if and only if the last one of the kind failed. -/
  worked : ∀ (before after : List Event) (p : Reply) (sent : Nat),
    events = before ++ .work p :: after →
      (s.run before).verdict? (.work p) = some (kind, .ok sent) →
        bulletins kind ((s.run before).step (.work p)).log = bulletins kind (s.run before).log ++
          if lastFailed kind (s.verdicts before) then [.commandRecovered kind] else []

/-- Whatever the worker executes and whatever the sender does, each kind of command is told of by
itself: failures and recoveries take turns, a failure is logged when the kind did not fail before,
and each one is counted. -/
theorem recovers_run {r : RemoteReporter} (fresh : r.IsFresh) (untried : r.failing = {})
    (h : Host) {events : List Event} (fair : ∀ p, .work p ∈ events → p.IsFair)
    (apart : ¬ Meets Meddles { delivery := Delivery.start r h } events) (kind : CommandKind) :
    Recovers { delivery := Delivery.start r h } events kind := by
  let s : Handling := { delivery := Delivery.start r h }
  have silent : s.Tells kind s.log [] := by
    refine ⟨?_, [], (List.append_nil _).symm, .silent⟩
    show r.failing.get kind = false
    rw [untried]
    cases kind <;> rfl
  -- what is known before any command, and what the command then adds
  have booked {before after : List Event} {p : Reply} {outcome : Except Fault Nat}
      (split : events = before ++ .work p :: after)
      (ends : (s.run before).verdict? (.work p) = some (kind, outcome)) :
      (s.run before).delivery.reporter.failing.get kind = lastFailed kind (s.verdicts before) ∧
        (s.run before).Booked kind outcome ((s.run before).step (.work p)) := by
    subst split
    rw [meets_append, not_or, Meets, not_or] at apart
    have early := silent.run (fun p m => fair p (List.mem_append_left _ m)) apart.1
    exact ⟨early.remembers, booked_work ends (fair p (by simp)) apart.2.1⟩
  have idle : s.Executes [] := by
    show ([] : List CommandKind) = [] ++ r.worker.kind?.toList
    rw [fresh.worker]
    rfl
  refine ⟨idle.run events, (silent.run fair apart).told, fun before after p f split ends => ?_,
    fun before after p f split ends => ?_, fun before after p sent split ends => ?_⟩
  · obtain ⟨remembers, booked⟩ := booked split ends
    rw [booked.log kind, if_pos rfl, remembers]
    rfl
  · obtain ⟨-, booked⟩ := booked split ends
    rw [booked.counted, metered_run]
    rfl
  · obtain ⟨remembers, booked⟩ := booked split ends
    rw [booked.log kind, if_pos rfl, remembers]
    rfl

/-- A reporter over a scripted transport, before its first call. -/
def scripted : Handling := { delivery := Delivery.start (.scripted 10 100 []) {} }

/-- A step of the worker for which the sender answers so and leaves a log as it is. -/
def answering (answer : Except Fault Int) (log : List Notice) : Event :=
  .work { answer, sender := .noop, notices := log, network := {} }

/-- What a sender raises that lost some spans. -/
def down (lost : Int) : Fault := .failure (.sender "down" lost none)

/-- A flush and an append that fail. -/
def failures : List Notice :=
  [RemoteReporter.failureNotice .flush 2 (down 2), .commandRaised .append 1]

/-- The worker looks whether its queue was given up, takes a command, looks again and starts it. -/
def starting (answer : Except Fault Int) (log : List Notice) : List Event :=
  List.replicate 4 (answering answer log)

/-- A flush fails, then an append, then another flush. -/
def trouble : List Event :=
  .flush :: starting (.ok 0) [] ++ [answering (.error (down 2)) [],
    .report { traceId := 7, spanId := 1, operation := .text "a" }] ++
    starting (.error (.raised "bug")) (failures.take 1) ++
    .flush :: starting (.ok 0) failures ++ [answering (.error (down 3)) failures]

def relief : List Event :=
  .flush :: starting (.ok 0) failures ++ [answering (.ok 4) failures]

/-- The second failure of a flush is not logged, the one of an append in between is, and all losses
are counted; then the flush works again, and the append does not. -/
theorem logs_first_failure_counts_both :
    scripted.Recovers (trouble ++ relief) .flush ∧ (scripted.run trouble).log = failures ∧
      (scripted.run (trouble ++ relief)).log = failures ++ [.commandRecovered .flush] ∧
      (scripted.run (trouble ++ relief)).delivery.host.tally.get .reporterFailure = 6 := by
  have fair : ∀ p, .work p ∈ trouble ++ relief → p.IsFair := by
    simp [trouble, relief, starting, answering, down, Reply.IsFair]
  have apart : ¬ Meets Meddles scripted (trouble ++ relief) := by
    simp only [trouble, relief, starting, List.replicate, List.cons_append, List.nil_append, Meets,
      not_or]
    refine ⟨id, ?_, ?_, ?_, ?_, ?_, id, ?_, ?_, ?_, ?_, id, ?_, ?_, ?_, ?_, ?_, id, ?_, ?_, ?_, ?_,
      ?_, id⟩ <;> exact not_meddles rfl
  have fresh := RemoteReporter.isFresh_scripted 10 100 []
  exact ⟨recovers_run fresh rfl {} fair apart .flush, rfl, rfl, rfl⟩

end Handling

end Tracing
