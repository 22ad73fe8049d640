import Tracing.Proofs.Delivery.Recovery
/-!
What a worker tells of an outage. While every batch fails, a kind of command is told of as working
again whenever one of the kind hands nothing on right after one that failed: an append that does not
fill a batch, a flush that finds the buffer empty. An outage is told of once where no such command
follows a failed one, and only there; of batches with more than one span, every failed append is
told of.
-/

set_option autoImplicit false
set_option relaxedAutoImplicit false

namespace Tracing

open Notice (bulletins Alternating)

/-- A command that was executed: its kind, and whether it handed a batch on. -/
abbrev Effort := CommandKind × Bool

/-- Which commands of a kind handed a batch on, in order. -/
def tries (kind : CommandKind) (done : List Effort) : List Bool :=
  (done.filter (·.1 == kind)).map Prod.snd

/-- How often a command that hands nothing on comes right after one that does. -/
def lulls : List Bool → Nat
  | true :: false :: rest => lulls rest + 1
  | _ :: rest => lulls rest
  | [] => 0

/-- No command that hands nothing on comes right after one that does. -/
def Unbroken (tried : List Bool) : Prop :=
  tried.IsChain fun before after => before = true → after = true

namespace Notice

def isFailure : Notice → Bool
  | commandFailed .. | commandRaised .. => true
  | _ => false

def isRecovery : Notice → Bool
  | commandRecovered _ => true
  | _ => false

def failures (kind : CommandKind) (log : List Notice) : Nat := (bulletins kind log).countP isFailure

def recoveries (kind : CommandKind) (log : List Notice) : Nat :=
  (bulletins kind log).countP isRecovery

/-- Since a log was `before`, one failure of a kind was told at most, and no recovery. -/
structure ToldOnce (kind : CommandKind) (before after : List Notice) : Prop where
  failures : failures kind after ≤ failures kind before + 1
  recoveries : recoveries kind after = recoveries kind before

end Notice

open Notice (failures recoveries ToldOnce)

section Tries

variable {kind : CommandKind} {tried : List Bool}

private theorem tries_append (earlier later : List Effort) :
    tries kind (earlier ++ later) = tries kind earlier ++ tries kind later := by
  simp [tries]

private theorem tries_toList_some (k : CommandKind) (handed : Bool) :
    tries kind (some (k, handed)).toList = if k = kind then [handed] else [] := by
  by_cases same : k = kind <;> simp [tries, same]

@[simp] theorem tries_toList_none : tries kind (none : Option Effort).toList = [] := rfl

private theorem lulls_concat (tried : List Bool) (handed : Bool) :
    lulls (tried ++ [handed]) =
      lulls tried + if tried.getLast?.getD false && !handed then 1 else 0 := by
  fun_induction lulls tried with
  | case1 rest ih =>
    have last : (true :: false :: rest).getLast?.getD false = rest.getLast?.getD false := by
      cases rest <;> simp
    rw [List.cons_append, List.cons_append, lulls, ih, last]
    omega
  | case2 first rest other ih =>
    cases rest with
    | nil => cases first <;> cases handed <;> rfl
    | cons second rest =>
      have step : lulls (first :: second :: rest ++ [handed]) =
          lulls (second :: rest ++ [handed]) := by
        cases first with
        | false => rfl
        | true =>
          cases second with
          | true => rfl
          | false => exact absurd rfl (other rest rfl)
      rw [step, ih, List.getLast?_cons_cons]
  | case3 => cases handed <;> rfl

private theorem unbroken_concat (tried : List Bool) (handed : Bool) :
    Unbroken (tried ++ [handed]) ↔
      Unbroken tried ∧ (tried.getLast?.getD false = true → handed = true) := by
  unfold Unbroken
  rw [List.isChain_append]
  cases tried.getLast? <;> simp

private theorem lulls_eq_zero_iff : lulls tried = 0 ↔ Unbroken tried := by
  induction tried using List.reverseRecOn with
  | nil => exact ⟨fun _ => .nil, fun _ => rfl⟩
  | append_singleton tried handed ih =>
    rw [lulls_concat, unbroken_concat, Nat.add_eq_zero_iff, ih]
    cases handed <;> cases tried.getLast?.getD false <;> simp

private theorem unbroken_of_alike {b : Bool} (alike : ∀ handed ∈ tried, handed = b) :
    Unbroken tried := by
  refine (List.pairwise_iff_forall_sublist.mpr fun {before after} there handed => ?_).isChain
  have same : ∀ t ∈ [before, after], t = b := fun t m => alike t (there.subset m)
  rw [same after (by simp), ← same before (by simp), handed]

end Tries

namespace Notice

variable {kind : CommandKind} {said : List Notice} {failed : Bool}

private theorem counts_failureNotice (k : CommandKind) (lost : Int) (fault : Fault) :
    (RemoteReporter.failureNotice k lost fault).isFailure = true ∧
      (RemoteReporter.failureNotice k lost fault).isRecovery = false := by
  unfold RemoteReporter.failureNotice
  split <;> exact ⟨rfl, rfl⟩

/-- Where failures and recoveries take turns, there is one failure for each recovery, and one more
if the last command failed. -/
private theorem Alternating.countP_isFailure (turns : Alternating kind said failed) :
    said.countP isFailure = said.countP isRecovery + if failed then 1 else 0 := by
  induction turns with
  | silent => rfl
  | fails lost fault before ih =>
    obtain ⟨failure, other⟩ := counts_failureNotice kind lost fault
    simp [List.countP_append, failure, other, ih]
  | recovers before ih =>
    simp [List.countP_append, isFailure, isRecovery, ih]

private theorem countP_isRecovery_bulletin (k : CommandKind) (failed : Bool)
    (outcome : Except Fault Nat) :
    (bulletin k failed outcome).countP isRecovery = if failed && outcome.isOk then 1 else 0 := by
  cases outcome with
  | ok => cases failed <;> rfl
  | error f =>
    cases failed with
    | true => rfl
    | false =>
      have other := (counts_failureNotice k (RemoteReporter.lostSpans k f) f).2
      simp [bulletin, other, Except.isOk, Except.toBool]

end Notice

private theorem Sender.notices_of_failed (s : Sender) {batch : List Span} {h : Host} {f : Fault}
    (failed : (s.sendBatch batch h).1 = .error f) :
    (s.sendBatch batch h).2.2.notices = h.notices := by
  cases s with
  | noop => rfl
  | buffered box t =>
    simp only [sendBatch] at failed ⊢
    split at failed
    · cases failed
    · rfl

namespace RemoteReporter

/-- The command that a move of the worker ends, and whether it handed a batch on. -/
def effort? (r : RemoteReporter) : Move → Option Effort
  | .proceed =>
    match r.worker with
    | .bound .flush => if r.sender.buffer = [] then some (.flush, false) else none
    | .bound .close => if r.sender.buffer = [] then some (.close, false) else none
    | .appending due => if due = 0 ∨ r.sender.buffer = [] then some (.append, false) else none
    | .sending kind _ => some (kind, true)
    | _ => none
  | _ => none

/-- The worker is about to start a flush, in a command of its own or inside an append. -/
def Flushes (r : RemoteReporter) (kind : CommandKind) : Prop :=
  (∃ command, r.worker = .bound command ∧ kind ≠ .append) ∨
    ∃ due, due ≠ 0 ∧ r.worker = .appending due ∧ kind = .append

/-- What a move of a caller or of the worker does while every batch fails, by the command that it
ends. -/
inductive Toils (size : Number) (r : RemoteReporter) (h : Host) :
    Option Effort → RemoteReporter → Host → Prop
  | still {queue : List Command} {h' : Host} : h'.notices = h.notices →
      h'.tally.get .reporterSuccess = h.tally.get .reporterSuccess →
      Toils size r h none { r with queue } h'
  | turn {queue : List Command} {worker : Worker} : r.worker ≠ .ended → r.worker.kind? = none →
      worker.kind? = none → Toils size r h none { r with queue, worker } h
  | gather {sender : Sender} {span : Span} {due : Nat} : r.worker = .bound (.append span) →
      (due ≠ 0 ↔ size.le (.integer (r.sender.buffer.length + 1 : Nat)) = true) →
      sender.buffer.length = r.sender.buffer.length + 1 →
      Toils size r h none { r with sender, worker := .appending due } h
  | hand {sender : Sender} {kind : CommandKind} {batch : List Span} :
      r.Flushes kind → r.sender.buffer ≠ [] → sender.buffer = [] →
      Toils size r h none { r with sender, worker := .sending kind batch } h
  | lull {sender : Sender} {kind : CommandKind} :
      (kind = .append ∧ r.worker = .appending 0) ∨ (r.Flushes kind ∧ r.sender.buffer = []) →
      sender.buffer = r.sender.buffer →
      Toils size r h (some (kind, false)) ({ r with sender }.conclude kind (.ok 0) h).1
        ({ r with sender }.conclude kind (.ok 0) h).2
  | fail {sender : Sender} {kind : CommandKind} {batch : List Span} {f : Fault} {h' : Host} :
      r.worker = .sending kind batch → sender.buffer = r.sender.buffer →
      h'.notices = h.notices → h'.tally = h.tally →
      Toils size r h (some (kind, true)) ({ r with sender }.conclude kind (.error f) h').1
        ({ r with sender }.conclude kind (.error f) h').2

variable {size : Number} {r r' : RemoteReporter} {h h' : Host}

private theorem toils_offer (r : RemoteReporter) (span : Span) (h : Host) :
    Toils size r h none (r.offer span h).1 (r.offer span h).2 := by
  obtain ⟨queue, same⟩ := r.asked_eq (.append span)
  rw [offer_reporter, same]
  refine .still (r.notices_offer h span) ?_
  unfold offer
  split <;> simp

private theorem toils_tick (r : RemoteReporter) (h : Host) :
    Toils size r h none (r.tick h).1 (r.tick h).2 := by
  obtain ⟨queue, same⟩ := r.asked_eq .flush
  rw [tick_reporter, same]
  refine .still (r.notices_tick h) ?_
  unfold tick
  dsimp only
  split <;> simp

private theorem toils_startFlush {kind : CommandKind} (flushes : r.Flushes kind) (h : Host) :
    Toils size r h (if r.sender.buffer = [] then some (kind, false) else none)
      (r.startFlush kind h).1 (r.startFlush kind h).2 := by
  have batch : r.sender.startFlush.1 = r.sender.buffer := by simp [Sender.startFlush]
  have left : r.sender.startFlush.2.buffer = [] := by simp [Sender.startFlush]
  unfold startFlush
  dsimp only
  rw [batch]
  by_cases none : r.sender.buffer = []
  · rw [if_pos none, none, List.isEmpty_nil, if_pos rfl]
    exact .lull (.inr ⟨flushes, none⟩) (left.trans none.symm)
  · rw [if_neg none, if_neg (by simpa using none)]
    exact .hand flushes none left

private theorem toils_take (r : RemoteReporter) (h : Host) :
    Toils size r h (r.effort? .take) (r.take h).1 (r.take h).2 := by
  unfold take
  split
  case h_1 command rest worker queue =>
    exact .turn (by simp [worker]) (by rw [worker]; rfl) rfl
  case h_2 => exact .still rfl rfl

private theorem toils_start (plain : r.sender.IsPlain size) {command : Command}
    (worker : r.worker = .bound command) (h : Host) :
    Toils size r h (r.effort? .proceed) (r.start command h).1 (r.start command h).2 := by
  cases command with
  | append span =>
    obtain ⟨due, sender, appended, full, -, grown, -⟩ := Sender.append_of_plain plain span
    simp only [effort?, worker, start, appended]
    exact .gather worker full (by rw [grown, List.length_append, List.length_singleton])
  | flush =>
    simp only [effort?, worker]
    exact toils_startFlush (.inl ⟨_, worker, by decide⟩) h
  | close =>
    simp only [effort?, worker]
    exact toils_startFlush (.inl ⟨_, worker, by decide⟩) h

private theorem toils_proceed (plain : r.sender.IsPlain size)
    (down : ∀ kind batch, r.worker = .sending kind batch →
      ∃ f, (r.sender.sendBatch batch h).1 = .error f) :
    Toils size r h (r.effort? .proceed) (r.proceed h).1 (r.proceed h).2 := by
  cases worker : r.worker with
  | waiting | ended =>
    have idle : r.proceed h = (r, h) := by simp [proceed, worker]
    simp only [effort?, worker, idle]
    exact .still rfl rfl
  | looking =>
    simp only [effort?, worker, proceed]
    refine .turn (by simp [worker]) (by rw [worker]; rfl) ?_
    split <;> rfl
  | holding command =>
    simp only [effort?, worker, proceed]
    refine .turn (by simp [worker]) (by rw [worker]; rfl) ?_
    split <;> rfl
  | bound command =>
    have starts : r.proceed h = r.start command h := by simp [proceed, worker]
    rw [starts]
    exact toils_start plain worker h
  | appending due =>
    by_cases none : due = 0
    · have kept : r.proceed h = r.conclude .append (.ok 0) h := by simp [proceed, worker, none]
      simp only [effort?, worker, none, true_or, if_true, kept]
      exact .lull (.inl ⟨rfl, none ▸ worker⟩) rfl
    · have flushes : r.proceed h = r.startFlush .append h := by simp [proceed, worker, none]
      simp only [effort?, worker, none, false_or, flushes]
      exact toils_startFlush (.inr ⟨due, none, worker, rfl⟩) h
  | sending kind batch =>
    obtain ⟨f, failed⟩ := down kind batch worker
    have sent : r.proceed h = { r with sender := (r.sender.sendBatch batch h).2.1 }.conclude kind
        (.error f) (r.sender.sendBatch batch h).2.2 := by
      simp only [proceed, worker, transmit, failed]
    simp only [effort?, worker, sent]
    refine .fail worker (by simp) ?_ (by simp)
    exact r.sender.notices_of_failed failed

private theorem conclude_tells (r : RemoteReporter) (k : CommandKind) (outcome : Except Fault Nat)
    (h : Host) :
    ((r.conclude k outcome h).1.failing = r.failing.set k (!outcome.isOk) ∧
        (r.conclude k outcome h).2.notices =
          h.notices ++ bulletin k (r.failing.get k) outcome) ∨
      k ≠ .append ∧ outcome.isOk = false ∧
        r.conclude k outcome h = ({ r with worker := .ended }, h) := by
  cases outcome with
  | ok sent =>
    obtain ⟨failing, log, -⟩ :=
      conclude_eq (r := r) (h := h) k (.ok sent) (Int.le_refl 0)
    exact .inl ⟨failing, log⟩
  | error f =>
    cases counted : h.count? r.metered .reporterFailure (lostSpans k f) with
    | none =>
      have negative := (Host.count?_eq_none.mp counted).2
      exact .inr ⟨(sender_of_lostSpans negative).1, rfl, by simp only [conclude, counted]⟩
    | some host =>
      have log : host.notices = h.notices := Host.notices_of_count? counted
      left
      simp only [conclude, counted]
      refine ⟨rfl, ?_⟩
      cases failing : r.failing.get k <;> simp [bulletin, Host.log, log]

/-- What was told of a kind of command since a log was `before`, after its tries so far. A worker
that is lost remembers nothing, and is not lost in an append. -/
inductive Told (kind : CommandKind) (before : List Notice) (r : RemoteReporter) (h : Host)
    (tried : List Bool) : Prop
  | intro (said : List Notice) (failed : Bool) (log : bulletins kind h.notices = before ++ said)
      (turns : Alternating kind said failed)
      (recoveries : said.countP Notice.isRecovery = lulls tried)
      (last : kind = .append ∨ r.worker ≠ .ended → failed = tried.getLast?.getD false)
      (remembers : r.worker ≠ .ended → r.failing.get kind = failed) :
      Told kind before r h tried

variable {kind : CommandKind} {before : List Notice} {tried : List Bool}

private theorem Told.of_same (told : Told kind before r h tried) (log : h'.notices = h.notices)
    (failing : r'.failing = r.failing) (alive : r'.worker ≠ .ended → r.worker ≠ .ended) :
    Told kind before r' h' tried := by
  obtain ⟨said, failed, same, turns, recoveries, last, remembers⟩ := told
  refine ⟨said, failed, log ▸ same, turns, recoveries, fun either => last (either.imp_right alive),
    fun lives => ?_⟩
  rw [failing]
  exact remembers (alive lives)

private theorem Told.conclude (told : Told kind before r h tried) (alive : r.worker ≠ .ended)
    (k : CommandKind) (outcome : Except Fault Nat) :
    Told kind before (r.conclude k outcome h).1 (r.conclude k outcome h).2
      (tried ++ if k = kind then [!outcome.isOk] else []) := by
  obtain ⟨said, failed, log, turns, recoveries, last, remembers⟩ := told
  have failing := remembers alive
  have tail := last (.inr alive)
  rcases r.conclude_tells k outcome h with ⟨booked, told⟩ | ⟨other, error, lost⟩
  · have said' : bulletins kind (r.conclude k outcome h).2.notices =
        before ++ (said ++ if k = kind then bulletin k (r.failing.get k) outcome else []) := by
      rw [told, bulletins_append, log, bulletins_bulletin, List.append_assoc]
    by_cases same : k = kind
    · subst same
      rw [if_pos rfl] at said' ⊢
      rw [failing] at said'
      refine ⟨_, !outcome.isOk, said', turns.say outcome, ?_, fun _ => by simp, fun _ => ?_⟩
      · rw [List.countP_append, recoveries, Notice.countP_isRecovery_bulletin, lulls_concat, ← tail,
          Bool.not_not]
      · rw [booked, Failing.get_set, if_pos rfl]
    · rw [if_neg same] at said' ⊢
      rw [List.append_nil] at said' ⊢
      refine ⟨said, failed, said', turns, recoveries, fun _ => tail, fun _ => ?_⟩
      rw [booked, Failing.get_set, if_neg same, failing]
  · rw [lost, error]
    have ended : ¬ ({ r with worker := .ended } : RemoteReporter).worker ≠ .ended := fun f => f rfl
    refine ⟨said, failed, log, turns, ?_, ?_, fun lives => absurd lives ended⟩
    · rw [recoveries]
      split
      · rw [lulls_concat]
        simp
      · rw [List.append_nil]
    · rintro (rfl | lives)
      · rw [if_neg other, List.append_nil]
        exact tail
      · exact absurd lives ended

private theorem Told.toils {effort : Option Effort} (told : Told kind before r h tried)
    (toils : Toils size r h effort r' h') :
    Told kind before r' h' (tried ++ tries kind effort.toList) := by
  have quiet {r' : RemoteReporter} {h' : Host} (same : Told kind before r' h' tried) :
      Told kind before r' h' (tried ++ tries kind (none : Option Effort).toList) := by
    rwa [tries_toList_none, List.append_nil]
  have starts {k : CommandKind} (flushes : r.Flushes k) : r.worker ≠ .ended := by
    rcases flushes with ⟨command, worker, -⟩ | ⟨due, -, worker, -⟩ <;> simp [worker]
  cases toils with
  | still log => exact quiet (told.of_same log rfl id)
  | turn alive => exact quiet (told.of_same rfl rfl fun _ => alive)
  | gather worker => exact quiet (told.of_same rfl rfl fun _ => by simp [worker])
  | hand flushes => exact quiet (told.of_same rfl rfl fun _ => starts flushes)
  | @lull sender k idle same =>
    have alive : r.worker ≠ .ended := by
      rcases idle with ⟨-, worker⟩ | ⟨flushes, -⟩
      · simp [worker]
      · exact starts flushes
    have unbooked : Told kind before { r with sender } h tried := told.of_same rfl rfl id
    rw [tries_toList_some]
    exact unbooked.conclude alive k (.ok 0)
  | @fail sender k batch f host worker same log =>
    have alive : r.worker ≠ .ended := by simp [worker]
    have unbooked : Told kind before { r with sender } host tried := told.of_same log rfl id
    rw [tries_toList_some]
    exact unbooked.conclude alive k (.error f)

private theorem Told.counts {log : List Notice} (told : Told kind (bulletins kind log) r h tried) :
    recoveries kind h.notices = recoveries kind log + lulls tried ∧
      ∃ failed : Bool, failures kind h.notices =
          failures kind log + lulls tried + (if failed then 1 else 0) ∧
        (kind = .append → failed = tried.getLast?.getD false) := by
  obtain ⟨said, failed, same, turns, recovered, last, -⟩ := told
  unfold recoveries failures
  rw [same, List.countP_append, List.countP_append, turns.countP_isFailure, recovered]
  exact ⟨rfl, failed, by omega, fun append => last (.inl append)⟩

private theorem Told.toldOnce_iff {log : List Notice}
    (told : Told kind (bulletins kind log) r h tried) :
    ToldOnce kind log h.notices ↔ Unbroken tried := by
  obtain ⟨recovered, failed, told, -⟩ := told.counts
  rw [← lulls_eq_zero_iff]
  constructor
  · intro once
    have := once.recoveries
    omega
  · intro none
    refine ⟨?_, by omega⟩
    split at told <;> omega

private theorem sender_conclude (r : RemoteReporter) (k : CommandKind) (outcome : Except Fault Nat)
    (h : Host) : (r.conclude k outcome h).1.sender = r.sender := by
  cases outcome with
  | ok => rfl
  | error f =>
    unfold conclude
    dsimp only
    split <;> rfl

/-- A buffer that is full with one span is empty but inside an append, which hands it on. -/
structure IsEager (r : RemoteReporter) : Prop where
  due : ∀ due, r.worker = .appending due → due ≠ 0 ∧ r.sender.buffer ≠ []
  empty : (∀ due, r.worker ≠ .appending due) → r.sender.buffer = []
  sending : ∀ kind batch, r.worker = .sending kind batch → kind = .append

private theorem isEager_conclude (r : RemoteReporter) {k : CommandKind} {outcome : Except Fault Nat}
    (empty : r.sender.buffer = []) : (r.conclude k outcome h).1.IsEager := by
  have idle := kind?_conclude r k outcome h
  refine ⟨fun due worker => ?_, fun _ => ?_, fun kind batch worker => ?_⟩
  · rw [worker] at idle
    cases idle
  · rw [sender_conclude, empty]
  · rw [worker] at idle
    cases idle

private theorem IsEager.toils {effort : Option Effort} (eager : r.IsEager)
    (single : size.le (.integer 1) = true) (toils : Toils size r h effort r' h') :
    r'.IsEager ∧ ∀ k handed, effort = some (k, handed) → (handed = true ↔ k = .append) := by
  have bound {command : Command} (worker : r.worker = .bound command) : r.sender.buffer = [] :=
    eager.empty fun due => by simp [worker]
  cases toils with
  | still => exact ⟨⟨eager.due, eager.empty, eager.sending⟩, fun _ _ e => by cases e⟩
  | @turn queue worker alive idle idle' =>
    refine ⟨⟨fun due e => ?_, fun _ => eager.empty fun due e => ?_, fun kind batch e => ?_⟩,
      fun _ _ e => by cases e⟩
    · simp [show worker = .appending due from e, Worker.kind?] at idle'
    · simp [e, Worker.kind?] at idle
    · simp [show worker = .sending kind batch from e, Worker.kind?] at idle'
  | gather worker full grown =>
    refine ⟨⟨?_, fun other => absurd rfl (other _), fun _ _ e => by cases e⟩,
      fun _ _ e => by cases e⟩
    rintro due ⟨⟩
    rw [bound worker] at full grown
    exact ⟨full.mpr single, fun none => by simp [none] at grown⟩
  | hand flushes some emptied =>
    rcases flushes with ⟨command, worker, -⟩ | ⟨due, -, -, rfl⟩
    · exact absurd (bound worker) some
    · refine ⟨⟨(fun _ e => by cases e), fun _ => emptied, ?_⟩, fun _ _ e => by cases e⟩
      rintro kind batch ⟨⟩
      rfl
  | @lull sender k idle same =>
    rcases idle with ⟨-, worker⟩ | ⟨⟨command, worker, other⟩ | ⟨due, -, worker, -⟩, none⟩
    · exact absurd rfl (eager.due 0 worker).1
    · refine ⟨isEager_conclude _ (same.trans none), ?_⟩
      rintro k handed ⟨⟩
      simpa using other
    · exact absurd none (eager.due due worker).2
  | @fail sender k batch f host worker same =>
    have empty := eager.empty fun due => by simp [worker]
    refine ⟨isEager_conclude _ (same.trans empty), ?_⟩
    rintro k handed ⟨⟩
    simpa using eager.sending k batch worker

/-- Between two appends that hand their spans on stands one that does not, as the first leaves the
buffer empty. -/
structure IsSparse (r : RemoteReporter) (tried : List Bool) : Prop where
  count : lulls tried + (if tried.getLast?.getD false then 1 else 0) = tried.count true
  cleared : ∀ kind batch, r.worker = .sending kind batch → r.sender.buffer = []
  due : tried.getLast?.getD false = true → ∀ due, r.worker = .appending due → due = 0
  sending : tried.getLast?.getD false = true → ∀ batch, r.worker ≠ .sending .append batch
  empty : tried.getLast?.getD false = true → (∀ due, r.worker ≠ .appending due) →
    r.sender.buffer = []

private theorem isSparse_conclude (r : RemoteReporter) {k : CommandKind}
    {outcome : Except Fault Nat}
    {tried : List Bool}
    (count : lulls tried + (if tried.getLast?.getD false then 1 else 0) = tried.count true)
    (empty : tried.getLast?.getD false = true → r.sender.buffer = []) :
    (r.conclude k outcome h).1.IsSparse tried := by
  have idle := kind?_conclude r k outcome h
  have busy {worker : Worker} {kind : CommandKind}
      (same : (r.conclude k outcome h).1.worker = worker) (in_ : worker.kind? = some kind) :
      False := by
    rw [same, in_] at idle
    cases idle
  refine ⟨count, fun _ _ worker => (busy worker rfl).elim, fun _ _ worker => (busy worker rfl).elim,
    fun _ _ worker => busy worker rfl, fun last _ => ?_⟩
  rw [sender_conclude, empty last]

private theorem IsSparse.toils {effort : Option Effort} {tried : List Bool}
    (sparse : r.IsSparse tried)
    (several : size.le (.integer 1) = false) (toils : Toils size r h effort r' h') :
    r'.IsSparse (tried ++ tries .append effort.toList) := by
  have quiet {r' : RemoteReporter} (same : r'.IsSparse tried) :
      r'.IsSparse (tried ++ tries .append (none : Option Effort).toList) := by
    rwa [tries_toList_none, List.append_nil]
  cases toils with
  | still => exact quiet ⟨sparse.count, sparse.cleared, sparse.due, sparse.sending, sparse.empty⟩
  | @turn queue worker alive idle idle' =>
    refine quiet ⟨sparse.count, fun kind batch e => ?_, fun _ due e => ?_, fun _ batch e => ?_,
      fun last _ => sparse.empty last fun due e => ?_⟩
    · simp [show worker = .sending kind batch from e, Worker.kind?] at idle'
    · simp [show worker = .appending due from e, Worker.kind?] at idle'
    · simp [show worker = .sending .append batch from e, Worker.kind?] at idle'
    · simp [e, Worker.kind?] at idle
  | gather worker full =>
    refine quiet ⟨sparse.count, (fun _ _ e => by cases e), fun last => ?_,
      (fun _ _ e => by cases e), fun _ other => absurd rfl (other _)⟩
    rintro due ⟨⟩
    rw [sparse.empty last fun due => by simp [worker]] at full
    by_contra some
    have single : size.le (.integer 1) = true := full.mp some
    cases single.symm.trans several
  | hand flushes some emptied =>
    refine quiet ⟨sparse.count, fun _ _ _ => emptied, (fun _ _ e => by cases e),
      fun last batch => ?_, fun _ _ => emptied⟩
    rintro ⟨⟩
    rcases flushes with ⟨-, -, other⟩ | ⟨due, some, worker, -⟩
    · exact other rfl
    · exact some (sparse.due last due worker)
  | @lull sender k idle same =>
    rw [tries_toList_some]
    split
    case isTrue append =>
      refine isSparse_conclude _ ?_ fun last => by simp at last
      have count := sparse.count
      rw [lulls_concat]
      simp only [Bool.not_false, Bool.and_true, List.getLast?_concat, List.count_append]
      simpa using count
    case isFalse other =>
      rw [List.append_nil]
      refine isSparse_conclude _ sparse.count fun last => ?_
      rcases idle with ⟨append, -⟩ | ⟨-, none⟩
      · exact absurd append other
      · exact same.trans none
  | @fail sender k batch f host worker same =>
    have cleared := same.trans (sparse.cleared k batch worker)
    rw [tries_toList_some]
    split
    case isTrue append =>
      subst append
      have last : tried.getLast?.getD false = false := by
        by_contra last
        exact sparse.sending (by simpa using last) batch worker
      have count := sparse.count
      rw [last] at count
      refine isSparse_conclude _ ?_ fun _ => cleared
      rw [lulls_concat, last]
      simpa using count
    case isFalse =>
      rw [List.append_nil]
      exact isSparse_conclude _ sparse.count fun _ => cleared

private theorem success_conclude (r : RemoteReporter) (k : CommandKind) {outcome : Except Fault Nat}
    (nothing : outcome = .ok 0 ∨ ∃ f, outcome = .error f) (h : Host) :
    (r.conclude k outcome h).2.tally.get .reporterSuccess = h.tally.get .reporterSuccess := by
  rcases nothing with rfl | ⟨f, rfl⟩
  · unfold conclude
    dsimp only
    split <;> simp
  · unfold conclude
    dsimp only
    split
    · rfl
    case h_2 host counted =>
      have same := Host.get_of_count?_eq_some counted .reporterSuccess
      split <;> simpa using same

private theorem Toils.success {effort : Option Effort} (toils : Toils size r h effort r' h') :
    h'.tally.get .reporterSuccess = h.tally.get .reporterSuccess := by
  cases toils with
  | still _ same => exact same
  | turn | gather | hand => rfl
  | lull => exact success_conclude _ _ (.inl rfl) _
  | fail _ _ _ same => rw [success_conclude _ _ (.inr ⟨_, rfl⟩), same]

end RemoteReporter

namespace Delivery

open RemoteReporter

/-- The commands that are executed in a run, in order. -/
def efforts (d : Delivery) : List Move → List Effort
  | [] => []
  | move :: rest => (d.reporter.effort? move).toList ++ (d.step move).efforts rest

/-- A move delivers no batch: the worker sends none, or the one that it sends fails. -/
def failsAt (d : Delivery) : Move → Bool
  | .proceed =>
    match d.reporter.worker with
    | .sending _ batch => !(d.reporter.sender.sendBatch batch d.host).1.isOk
    | _ => true
  | _ => true

/-- Every batch that the worker sends in a run fails. -/
def isDown (d : Delivery) : List Move → Bool
  | [] => true
  | move :: rest => d.failsAt move && (d.step move).isDown rest

variable {size : Number} {metered : Bool} {d : Delivery}

private theorem toils_step (hd : d.WellFormed size metered) {move : Move} (unclosed : move ≠ .close)
    (fails : d.failsAt move = true) :
    Toils size d.reporter d.host (d.reporter.effort? move) (d.step move).reporter
      (d.step move).host := by
  cases move with
  | report span => exact toils_offer d.reporter span d.host
  | flush => exact toils_tick d.reporter d.host
  | take => exact toils_take d.reporter d.host
  | proceed =>
    refine toils_proceed hd.plain fun kind batch worker => ?_
    simp only [failsAt, worker] at fails
    cases sent : (d.reporter.sender.sendBatch batch d.host).1 with
    | ok n => simp [sent, Except.isOk, Except.toBool] at fails
    | error f => exact ⟨f, rfl⟩
  | close => exact absurd rfl unclosed

private theorem toils_induction {P : RemoteReporter → Host → List Effort → Prop}
    (step : ∀ {r r' h h' effort done}, Toils size r h effort r' h' → P r h done →
      P r' h' (done ++ effort.toList))
    (hd : d.WellFormed size metered) {moves : List Move} (unclosed : .close ∉ moves)
    (down : d.isDown moves = true) (done : List Effort) (start : P d.reporter d.host done) :
    P (d.run moves).reporter (d.run moves).host (done ++ d.efforts moves) := by
  induction moves generalizing d done with
  | nil => simpa [efforts] using start
  | cons move rest ih =>
    obtain ⟨first, later⟩ := Bool.and_eq_true_iff.mp down
    obtain ⟨other, others⟩ := not_or.mp (mt List.mem_cons.mpr unclosed)
    have next := step (toils_step hd (Ne.symm other) first) start
    have after := ih (transition_step hd move).2 others later _ next
    rwa [List.append_assoc] at after

section Run

variable {transport : Transport} {reporter : RemoteReporter}
  (created : Sender.create size transport = .ok reporter.sender) (fresh : reporter.IsFresh)
  (host : Host) {moves : List Move} (unclosed : .close ∉ moves)
  (down : (start reporter host).isDown moves = true)

include created fresh unclosed down

private theorem told_run (untried : reporter.failing = {}) (kind : CommandKind) :
    Told kind (bulletins kind host.notices) ((start reporter host).run moves).reporter
      ((start reporter host).run moves).host
      (tries kind ((start reporter host).efforts moves)) := by
  refine toils_induction (P := fun r h done => Told kind _ r h (tries kind done))
    (fun toils told => by rw [tries_append]; exact told.toils toils)
    (wellFormed_start created fresh host) unclosed down [] ?_
  refine ⟨[], false, (List.append_nil _).symm, .silent, rfl, fun _ => rfl, fun _ => ?_⟩
  show reporter.failing.get kind = false
  rw [untried]
  cases kind <;> rfl

private theorem handed_iff_append_run (single : size.le (.integer 1) = true) :
    ∀ effort ∈ (start reporter host).efforts moves, effort.2 = true ↔ effort.1 = .append := by
  have eager := toils_induction (P := fun r _ done =>
      r.IsEager ∧ ∀ effort ∈ done, effort.2 = true ↔ effort.1 = .append)
    (fun {r r' h h' effort done} toils eager => ?_)
    (wellFormed_start created fresh host) unclosed down [] ⟨?_, nofun⟩
  · exact eager.2
  · obtain ⟨next, handed⟩ := eager.1.toils single toils
    refine ⟨next, fun effort there => ?_⟩
    rcases List.mem_append.mp there with there | there
    · exact eager.2 effort there
    · exact handed effort.1 effort.2 (Option.mem_toList.mp there)
  · refine ⟨fun due worker => ?_, fun _ => ?_, fun kind batch worker => ?_⟩
    · cases fresh.worker.symm.trans worker
    · show reporter.sender.buffer = []
      rw [(Sender.isPlain_of_create created).2]
      rfl
    · cases fresh.worker.symm.trans worker

private theorem isSparse_run (several : size.le (.integer 1) = false) :
    ((start reporter host).run moves).reporter.IsSparse
      (tries .append ((start reporter host).efforts moves)) := by
  refine toils_induction (P := fun r _ done => r.IsSparse (tries .append done))
    (fun toils sparse => by rw [tries_append]; exact sparse.toils several toils)
    (wellFormed_start created fresh host) unclosed down []
    ⟨rfl, fun kind batch worker => ?_, nofun, nofun, nofun⟩
  cases fresh.worker.symm.trans worker

end Run

/-- What is told of an outage. A kind of command is told of once exactly where none that hands
nothing on comes right after one that failed, and each such lull is told of as a recovery. Batches
of one span leave no such lulls; with larger ones every failed append is told of. -/
theorem toldOnce_iff_unbroken {transport : Transport} {reporter : RemoteReporter}
    (created : Sender.create size transport = .ok reporter.sender) (fresh : reporter.IsFresh)
    (untried : reporter.failing = {}) (host : Host) {moves : List Move}
    (unclosed : .close ∉ moves) (down : (start reporter host).isDown moves = true) :
    let d := (start reporter host).run moves
    let done := (start reporter host).efforts moves
    (∀ kind, ToldOnce kind host.notices d.host.notices ↔ Unbroken (tries kind done)) ∧
      (∀ kind, recoveries kind d.host.notices =
        recoveries kind host.notices + lulls (tries kind done)) ∧
      (size.le (.integer 1) = true → ∀ kind, ToldOnce kind host.notices d.host.notices) ∧
      (size.le (.integer 1) = false → failures .append d.host.notices =
        failures .append host.notices + (tries .append done).count true) ∧
      d.host.tally.get .reporterSuccess = host.tally.get .reporterSuccess := by
  intro d done
  have told := told_run created fresh host unclosed down untried
  refine ⟨fun kind => (told kind).toldOnce_iff, fun kind => (told kind).counts.1,
    fun single kind => ?_, fun several => ?_, ?_⟩
  · have handed := handed_iff_append_run created fresh host unclosed down single
    refine (told kind).toldOnce_iff.mpr (unbroken_of_alike (b := kind == .append) fun t there => ?_)
    obtain ⟨effort, listed, rfl⟩ := List.mem_map.mp there
    obtain ⟨executed, same⟩ := List.mem_filter.mp listed
    rw [← eq_of_beq same, Bool.eq_iff_iff, handed effort executed, beq_iff_eq]
  · have sparse := isSparse_run created fresh host unclosed down several
    obtain ⟨-, failed, count, last⟩ := (told .append).counts
    have sum : lulls (tries .append done) + _ = (tries .append done).count true := sparse.count
    rw [last rfl] at count
    rw [count, Nat.add_assoc, sum]
  · exact toils_induction
      (P := fun _ h _ => h.tally.get .reporterSuccess = host.tally.get .reporterSuccess)
      (fun toils same => toils.success.trans same) (wellFormed_start created fresh host) unclosed
      down [] rfl

/-- A reporter over batches of two spans, of which two fail. -/
def overPairs : RemoteReporter := .scripted 2 100 (List.replicate 2 (some (.broken "down")))

def oneSpan (name : String) : List Move :=
  [.reportNamed name, .proceed, .take, .proceed, .proceed, .proceed]

/-- The first span of a batch is kept, the second one fills it; twice. -/
def twoPairs : List Move :=
  oneSpan "a" ++ oneSpan "b" ++ .proceed :: oneSpan "c" ++ oneSpan "d" ++ [.proceed]

/-- Both batches fail. The append between them hands nothing on, so appends are told of as working
again, and the same outage is told of a second time. -/
theorem outage_of_pairs_told_twice :
    (start overPairs {}).isDown twoPairs = true ∧
      ¬ ToldOnce .append [] ((start overPairs {}).run twoPairs).host.notices ∧
      recoveries .append ((start overPairs {}).run twoPairs).host.notices = 1 ∧
      failures .append ((start overPairs {}).run twoPairs).host.notices = 2 ∧
      ((start overPairs {}).run twoPairs).host.tally.get .reporterSuccess = 0 := by
  have down : (start overPairs {}).isDown twoPairs = true := by decide +kernel
  have tried : tries .append ((start overPairs {}).efforts twoPairs) =
      [false, true, false, true] := by decide +kernel
  have unclosed : Move.close ∉ twoPairs := by simp [twoPairs, oneSpan, Move.reportNamed]
  have created : Sender.create (.integer 2)
      (.scripted (List.replicate 2 (some (.broken "down"))) []) = .ok overPairs.sender := rfl
  have fresh : overPairs.IsFresh := RemoteReporter.isFresh_scripted 2 100 _
  obtain ⟨once, recovered, -, failed, success⟩ :=
    toldOnce_iff_unbroken created fresh rfl {} unclosed down
  have told := recovered .append
  have failures := failed (by decide +kernel)
  rw [tried] at told failures
  refine ⟨down, fun twice => ?_, told, failures, success⟩
  have unbroken := lulls_eq_zero_iff.mpr ((once .append).mp twice)
  rw [tried] at unbroken
  cases unbroken

end Delivery

end Tracing
