import Tracing.Proofs.Delivery.Interleaving
/-!
What one move can do. A view keeps of a delivery what the accounts look at; one move changes the
view in one of a few ways, whatever the order of the moves.
-/

set_option autoImplicit false
set_option relaxedAutoImplicit false

namespace Tracing

open Metrics (Instrument)

namespace Closing

def empties : Closing → Bool
  | draining .. | waking | leaving | releasing _ | returned => true
  | _ => false

def hasEmptied : Closing → Bool
  | waking | leaving | releasing _ | returned => true
  | _ => false

/-- Whether the call has taken the last batch. -/
def hasParted : Closing → Bool
  | releasing _ | returned => true
  | _ => false

/-- Whether the call gives the queue up, up to waking the worker. -/
def gives : Closing → Bool
  | draining given _ => given
  | waking => true
  | _ => false

/-- Steps of a closing call that touch neither the queue nor the sender. -/
inductive Passes : Closing → Closing → Prop
  | enter : Passes notBegun entering
  | crowd : Passes entering resigning
  | tarry : Passes waiting late
  | warn : Passes late resigning

variable {c next : Closing}

theorem Passes.early (p : c.Passes next) : c.empties = false ∧ next.empties = false := by
  cases p <;> exact ⟨rfl, rfl⟩

theorem Passes.begins (p : c.Passes next) (first : next = .notBegun ∨ next = .entering) :
    c = .notBegun := by
  cases p <;> simp at first ⊢

theorem empties_of_hasEmptied (h : c.hasEmptied = true) : c.empties = true := by
  cases c <;> first | rfl | cases h

theorem hasEmptied_of_hasParted (h : c.hasParted = true) : c.hasEmptied = true := by
  cases c <;> first | rfl | cases h

theorem not_of_early (early : c.empties = false) :
    c.gives = false ∧ c ≠ .waking ∧ c.hasEmptied = false ∧ c.hasParted = false := by
  cases c <;> first | exact ⟨rfl, (fun e => by cases e), rfl, rfl⟩ | cases early

theorem thrown_of_early (early : c.empties = false) : c.thrown = 0 := by
  cases c <;> first | rfl | cases early

theorem inFlight_of_early (early : c.empties = false) : c.inFlight = [] := by
  cases c <;> first | rfl | cases early

end Closing

namespace Worker

theorem after_ne_sending (kind k : CommandKind) (batch : List Span) :
    after kind ≠ .sending k batch := by
  cases kind <;> exact fun e => by cases e

@[simp] theorem after_ne_waiting (kind : CommandKind) : after kind ≠ .waiting := by
  cases kind <;> exact fun e => by cases e

@[simp] theorem inFlight_after (kind : CommandKind) : (after kind).inFlight = [] := by
  cases kind <;> rfl

@[simp] theorem inHand_after (kind : CommandKind) : (after kind).inHand = [] := by
  cases kind <;> rfl

end Worker

namespace Delivery

/-- What the accounts look at. -/
structure View where
  closing : Closing
  queue : List Command
  worker : Worker
  abandoned : Bool
  overtaken : Bool
  buffer : List Span
  handed : List (List Span)
  answered : List (List Span)
  calls : List SenderCall
  outcomes : List (Option ScriptedFailure)
  reported : Nat
  accepted : List Span
  discarded : List Span
  forsaken : List Span
  /-- Spans counted as sent or as failed. -/
  settled : Int
  /-- Spans counted as dropped. -/
  dropped : Int

/-- The spans counted as sent or as failed. -/
def settledIn (h : Host) : Int :=
  h.tally.get .reporterSuccess + h.tally.get .reporterFailure

def view (d : Delivery) : View where
  closing := d.closing
  queue := d.reporter.queue
  worker := d.reporter.worker
  abandoned := d.reporter.abandoned
  overtaken := d.overtaken
  buffer := d.reporter.sender.buffer
  handed := d.reporter.sender.handed
  answered := d.answered
  calls := d.reporter.sender.calls
  outcomes := d.reporter.sender.outcomes
  reported := d.reported
  accepted := d.accepted
  discarded := d.discarded
  forsaken := d.forsaken
  settled := settledIn d.host
  dropped := d.host.tally.get .reporterDropped

namespace View

/-- A flush: the buffer goes out as a batch, if there is anything to send. -/
def flushed (v : View) (kind : CommandKind) : View :=
  { v with
    worker := if v.buffer = [] then .after kind else .sending kind v.buffer
    buffer := []
    handed := v.handed ++ batchOf v.buffer
    calls := v.calls ++ [.flush] }

/-- The next outcome in store names no loss but the length of a batch. -/
def SendsFairly (v : View) (batch : List Span) : Prop :=
  ∀ dropped message, v.outcomes.head? = some (some (.refused dropped message)) →
    dropped = batch.length

/-- The worker is in a flush, or in its last one, whose loss the counter will refuse: an append
books one span at least. -/
def LosesWorker (v : View) (metered : Bool) : Prop :=
  metered = true ∧ ∃ kind batch loss message, v.worker = .sending kind batch ∧ kind ≠ .append ∧
    v.outcomes.head? = some (some (.refused loss message)) ∧ loss < 0

end View

/-- What a counter that counts adds. -/
def weight (metered : Bool) (n : Int) : Int := if metered then n else 0

/-- What one move does to the view. -/
inductive Transition (size : Number) (metered : Bool) : Move → View → View → Prop
  | still {move : Move} {v : View} : Transition size metered move v v
  | refuse {v : View} (span : Span) : Transition size metered (.report span) v
      { v with reported := v.reported + 1, dropped := v.dropped + weight metered 1 }
  | accept {v : View} (span : Span) (begun : v.closing = .notBegun) :
      Transition size metered (.report span) v
        { v with
          reported := v.reported + 1
          accepted := v.accepted ++ [span]
          queue := v.queue ++ [.append span] }
  | ask {v : View} (begun : v.closing = .notBegun) : Transition size metered .flush v
      { v with queue := v.queue ++ [.flush] }
  | take {v : View} (command : Command) (rest : List Command) (worker : v.worker = .waiting)
      (queue : v.queue = command :: rest) :
      Transition size metered .take v { v with queue := rest, worker := .holding command }
  -- a worker that looks finds the queue in use or given up
  | look {v : View} (worker : v.worker = .looking) (kept : v.abandoned = false) :
      Transition size metered .proceed v { v with worker := .waiting }
  | stop {v : View} (worker : v.worker = .looking) (given : v.abandoned = true) :
      Transition size metered .proceed v { v with worker := .ended }
  | bind {v : View} (command : Command) (worker : v.worker = .holding command)
      (kept : v.abandoned = false) :
      Transition size metered .proceed v { v with worker := .bound command }
  | quit {v : View} (command : Command) (worker : v.worker = .holding command)
      (given : v.abandoned = true) :
      Transition size metered .proceed v
        { v with worker := .ended, forsaken := v.forsaken ++ queuedSpans [command] }
  | gather {v : View} (span : Span) (due : Nat) (worker : v.worker = .bound (.append span))
      (full : due ≠ 0 ↔ size.le (.integer (v.buffer.length + 1 : Nat)) = true) :
      Transition size metered .proceed v
        { v with
          worker := .appending due
          buffer := v.buffer ++ [span]
          calls := v.calls ++ [.append] }
  | flush {v : View} (command : Command) (worker : v.worker = .bound command)
      (carries : command.span? = none) :
      Transition size metered .proceed v (v.flushed command.kind)
  | keep {v : View} (worker : v.worker = .appending 0) :
      Transition size metered .proceed v { v with worker := .looking }
  | flushDue {v : View} (due : Nat) (worker : v.worker = .appending due) (full : due ≠ 0) :
      Transition size metered .proceed v (v.flushed .append)
  | land {v : View} (kind : CommandKind) (batch : List Span) (amount : Int)
      (worker : v.worker = .sending kind batch)
      (fair : v.SendsFairly batch → amount = batch.length) :
      Transition size metered .proceed v
        { v with
          worker := .after kind
          settled := v.settled + weight metered amount
          outcomes := v.outcomes.drop 1
          answered := v.answered ++ [batch] }
  | die {v : View} (lost : v.LosesWorker metered) :
      Transition size metered .proceed v
        { v with
          worker := .ended
          outcomes := v.outcomes.drop 1
          answered := v.answered ++ [v.worker.inFlight] }
  | pass {v : View} {next : Closing} (passes : v.closing.Passes next) :
      Transition size metered .close v { v with closing := next }
  | request {v : View} (entering : v.closing = .entering) :
      Transition size metered .close v
        { v with closing := .waiting, queue := v.queue ++ [.close] }
  | finish {v : View} (waiting : v.closing = .waiting) (worker : v.worker = .ended) :
      Transition size metered .close v { v with closing := .draining false 0 }
  | resign {v : View} (resigning : v.closing = .resigning) :
      Transition size metered .close v
        { v with
          closing := .draining true 0
          abandoned := true
          overtaken := v.worker.isTaking v.queue }
  | throw {v : View} {given : Bool} {thrown : Nat} (command : Command) (rest : List Command)
      (draining : v.closing = .draining given thrown) (queue : v.queue = command :: rest) :
      Transition size metered .close v
        { v with
          closing := .draining given (thrown + (queuedSpans [command]).length)
          queue := rest
          discarded := v.discarded ++ queuedSpans [command] }
  | book {v : View} {given : Bool} {thrown : Nat} (draining : v.closing = .draining given thrown)
      (queue : v.queue = []) :
      Transition size metered .close v
        { v with
          closing := if given then .waking else .leaving
          dropped := v.dropped + weight metered thrown }
  | wake {v : View} {queue : List Command} (waking : v.closing = .waking)
      (woken : queue = v.queue ∨ queue = v.queue ++ [.close]) :
      Transition size metered .close v { v with closing := .leaving, queue }
  | part {v : View} (leaving : v.closing = .leaving) :
      Transition size metered .close v
        { v with
          closing := .releasing v.buffer
          buffer := []
          handed := v.handed ++ batchOf v.buffer
          calls := v.calls ++ [.close] }
  | release {v : View} (batch : List Span) (amount : Int) (releasing : v.closing = .releasing batch)
      (none : batch = [] → amount = 0) (fair : v.SendsFairly batch → amount = batch.length) :
      Transition size metered .close v
        { v with
          closing := .returned
          settled := v.settled + weight metered amount
          outcomes := v.outcomes.drop (batchOf batch).length
          answered := v.answered ++ batchOf batch }

/-- A reporter over a plain sender, whose worker sends no empty batch and which is open until the
closing call begins. -/
structure WellFormed (size : Number) (metered : Bool) (d : Delivery) : Prop where
  plain : d.reporter.sender.IsPlain size
  metered_eq : d.reporter.metered = metered
  closed_iff : d.reporter.closed = true ↔ d.closing ≠ .notBegun
  nonempty : ∀ kind batch, d.reporter.worker = .sending kind batch → batch ≠ []

theorem wellFormed_start {size : Number} {transport : Transport} {reporter : RemoteReporter}
    (created : Sender.create size transport = .ok reporter.sender) (fresh : reporter.IsFresh)
    (host : Host) : (start reporter host).WellFormed size reporter.metered where
  plain := (Sender.isPlain_of_create created).1
  metered_eq := rfl
  closed_iff := by simp [start, fresh.closed]
  nonempty kind batch h := by simp [start, fresh.worker] at h

theorem view_start {size : Number} {transport : Transport} {reporter : RemoteReporter}
    (created : Sender.create size transport = .ok reporter.sender) (fresh : reporter.IsFresh)
    (host : Host) :
    (start reporter host).view =
      { closing := .notBegun, queue := [], worker := .looking, abandoned := false
        overtaken := false, buffer := [], handed := [], answered := [], calls := []
        outcomes := transport.outcomes, reported := 0, accepted := [], discarded := []
        forsaken := [], settled := settledIn host
        dropped := host.tally.get .reporterDropped } := by
  have sender := (Sender.isPlain_of_create created).2
  simp [start, view, fresh.queue, fresh.worker, fresh.abandoned, sender, Sender.buffer,
    Sender.handed, Sender.calls, Sender.outcomes]

private theorem settledIn_count_success (h : Host) (metered : Bool) (n : Nat) :
    settledIn (h.count metered .reporterSuccess n) = settledIn h + weight metered n := by
  cases metered <;> simp [settledIn, weight]
  omega

private theorem settledIn_of_count? {h h' : Host} {metered : Bool} {n : Int}
    (e : h.count? metered .reporterFailure n = some h') :
    settledIn h' = settledIn h + weight metered n := by
  have hs := Host.get_of_count?_eq_some e .reporterSuccess
  have hf := Host.get_of_count?_eq_some e .reporterFailure
  cases metered <;> simp [settledIn, weight] at hs hf ⊢ <;> omega

private theorem conclude_ok (r : RemoteReporter) (kind : CommandKind) (sent : Nat) (h : Host) :
    ∃ failing host, r.conclude kind (.ok sent) h =
        ({ r with worker := .after kind, failing }, host) ∧
      settledIn host = settledIn h + weight r.metered sent ∧
      host.tally.get .reporterDropped = h.tally.get .reporterDropped := by
  refine ⟨_, _, rfl, ?_, ?_⟩
  · split
    · exact settledIn_count_success h r.metered sent
    · exact settledIn_count_success h r.metered sent
  · split <;> simp

/-- A command that fails counts its loss and moves nothing but the worker. A loss below zero ends
the worker where losses are counted. -/
theorem conclude_error (r : RemoteReporter) (kind : CommandKind) (fault : Fault) (h : Host) :
    (r.metered = true ∧ RemoteReporter.lostSpans kind fault < 0 ∧
        r.conclude kind (.error fault) h = ({ r with worker := .ended }, h)) ∨
      ∃ failing host, r.conclude kind (.error fault) h =
          ({ r with worker := .after kind, failing }, host) ∧
        settledIn host = settledIn h + weight r.metered (RemoteReporter.lostSpans kind fault) ∧
        host.tally.get .reporterDropped = h.tally.get .reporterDropped := by
  cases hc : h.count? r.metered .reporterFailure (RemoteReporter.lostSpans kind fault) with
  | none =>
    obtain ⟨metered, negative⟩ := Host.count?_eq_none.mp hc
    exact .inl ⟨metered, negative, by simp only [RemoteReporter.conclude, hc]⟩
  | some counted =>
    right
    refine ⟨r.failing.set kind true, if r.failing.get kind then counted else
      counted.log (RemoteReporter.failureNotice kind (RemoteReporter.lostSpans kind fault) fault),
      by simp only [RemoteReporter.conclude, hc], ?_, ?_⟩
    · rw [← settledIn_of_count? hc]
      split <;> rfl
    · have hd := Host.get_of_count?_eq_some hc .reporterDropped
      split <;> simpa using hd

private theorem lostSpans_of_length (kind : CommandKind) (text : String) (cause : Option Cause)
    {batch : List Span} (nonempty : batch ≠ []) :
    RemoteReporter.lostSpans kind (.failure (.sender text batch.length cause)) = batch.length := by
  have := List.length_pos_of_ne_nil nonempty
  cases kind <;> simp only [RemoteReporter.lostSpans]
  omega

private theorem lt_zero_of_lostSpans {kind : CommandKind} {text : String} {dropped : Int}
    {cause : Option Cause}
    (h : RemoteReporter.lostSpans kind (.failure (.sender text dropped cause)) < 0) :
    kind ≠ .append ∧ dropped < 0 := by
  cases kind with
  | append =>
    simp only [RemoteReporter.lostSpans] at h
    omega
  | flush | close => exact ⟨(fun e => by cases e), h⟩

variable {size : Number} {metered : Bool} {d : Delivery}

private theorem WellFormed.keep (hd : d.WellFormed size metered) {d' : Delivery}
    (plain : d'.reporter.sender.IsPlain size)
    (metered_eq : d'.reporter.metered = d.reporter.metered)
    (closed_eq : d'.reporter.closed = d.reporter.closed) (closing_eq : d'.closing = d.closing)
    (nonempty : ∀ kind batch, d'.reporter.worker = .sending kind batch → batch ≠ []) :
    d'.WellFormed size metered :=
  ⟨plain, metered_eq.trans hd.metered_eq, closed_eq ▸ closing_eq ▸ hd.closed_iff, nonempty⟩

private theorem WellFormed.begun (hd : d.WellFormed size metered) (h : d.reporter.refuses = false) :
    d.closing = .notBegun := by
  have closed : d.reporter.closed = false := by
    simp only [RemoteReporter.refuses, Bool.or_eq_false_iff] at h
    exact h.1
  by_contra begun
  simp [hd.closed_iff.mpr begun] at closed

private theorem transition_startFlush (hd : d.WellFormed size metered) (kind : CommandKind) :
    (d.act (·.startFlush kind)).view = d.view.flushed kind ∧
      (d.act (·.startFlush kind)).WellFormed size metered := by
  have plain := hd.plain
  by_cases empty : d.reporter.sender.buffer = []
  · have e : d.reporter.startFlush kind d.host =
        { d.reporter with sender := d.reporter.sender.startFlush.2 }.conclude kind (.ok 0)
          d.host := by
      simp [RemoteReporter.startFlush, Sender.startFlush, empty]
    obtain ⟨failing, host, hc, settled, dropped⟩ := conclude_ok
      { d.reporter with sender := d.reporter.sender.startFlush.2 } kind 0 d.host
    rw [hc] at e
    constructor
    · simp only [act, e, view, View.flushed, empty, if_true]
      simp [Sender.startFlush, Sender.calls_note _ plain, empty, settled, dropped, weight]
    · simp only [act, e]
      refine hd.keep ?_ rfl rfl rfl fun k b h => absurd h (Worker.after_ne_sending _ _ _)
      simpa [Sender.startFlush] using plain
  · have e : d.reporter.startFlush kind d.host =
        ({ d.reporter with
            sender := d.reporter.sender.startFlush.2
            worker := .sending kind d.reporter.sender.buffer }, d.host) := by
      simp [RemoteReporter.startFlush, Sender.startFlush, empty]
    constructor
    · simp only [act, e, view, View.flushed, empty, if_false]
      simp [Sender.startFlush, Sender.calls_note _ plain]
    · simp only [act, e]
      refine hd.keep (by simpa [Sender.startFlush] using plain) rfl rfl rfl ?_
      rintro k b ⟨⟩
      exact empty

private theorem start_of_span?_eq_none {command : Command} (h : command.span? = none)
    (r : RemoteReporter)
    (host : Host) : r.start command host = r.startFlush command.kind host := by
  cases command with
  | append => cases h
  | flush | close => rfl

private theorem transition_take (hd : d.WellFormed size metered) :
    Transition size metered .take d.view (d.step .take).view ∧
      (d.step .take).WellFormed size metered := by
  have idle (same : d.reporter.take d.host = (d.reporter, d.host)) :
      Transition size metered .take d.view (d.step .take).view ∧
        (d.step .take).WellFormed size metered := by
    simp only [step, act, same]
    exact ⟨.still, hd⟩
  cases hw : d.reporter.worker with
  | waiting =>
    cases hq : d.reporter.queue with
    | nil => exact idle (by simp [RemoteReporter.take, hw, hq])
    | cons command rest =>
      have taken : d.reporter.take d.host =
          ({ d.reporter with queue := rest, worker := .holding command }, d.host) := by
        simp [RemoteReporter.take, hw, hq]
      simp only [step, act, taken]
      exact ⟨.take command rest hw hq, hd.keep hd.plain rfl rfl rfl (fun _ _ e => by cases e)⟩
  | _ => exact idle (by simp [RemoteReporter.take, hw])

private theorem work_eq_act (f : RemoteReporter → Host → RemoteReporter × Host)
    (lets : d.reporter.worker.forsakes d.reporter.abandoned = [])
    (idle : d.reporter.worker.inFlight = []) : d.work f = d.act f := by
  simp [work, lets, idle, act]

private theorem transition_turn (hd : d.WellFormed size metered) (worker : Worker)
    (turns : d.reporter.proceed d.host = ({ d.reporter with worker }, d.host))
    (lets : d.reporter.worker.forsakes d.reporter.abandoned = [])
    (idle : d.reporter.worker.inFlight = [])
    (other : ∀ kind batch, worker ≠ .sending kind batch)
    (t : Transition size metered .proceed d.view { d.view with worker }) :
    Transition size metered .proceed d.view (d.step .proceed).view ∧
      (d.step .proceed).WellFormed size metered := by
  simp only [step, work_eq_act _ lets idle, act, turns]
  exact ⟨t, hd.keep hd.plain rfl rfl rfl fun k b e => absurd e (other k b)⟩

private theorem transition_start (hd : d.WellFormed size metered) {command : Command}
    (hw : d.reporter.worker = .bound command) :
    Transition size metered .proceed d.view (d.step .proceed).view ∧
      (d.step .proceed).WellFormed size metered := by
  have lets : d.reporter.worker.forsakes d.reporter.abandoned = [] := by rw [hw]; rfl
  have idle : d.reporter.worker.inFlight = [] := by rw [hw]; rfl
  have started : d.act RemoteReporter.proceed = d.act (·.start command) := by
    simp [act, RemoteReporter.proceed, hw]
  simp only [step, work_eq_act _ lets idle, started]
  cases hc : command.span? with
  | some span =>
    obtain rfl : command = .append span := by cases command <;> cases hc; rfl
    obtain ⟨due, sender, appended, full, plain, buffer, handed, calls, outcomes⟩ :=
      Sender.append_of_plain hd.plain span
    have gathered : d.reporter.start (.append span) d.host =
        ({ d.reporter with sender, worker := .appending due }, d.host) := by
      simp [RemoteReporter.start, appended]
    simp only [act, gathered]
    refine ⟨?_, hd.keep plain rfl rfl rfl (fun _ _ e => by cases e)⟩
    have : Transition size metered .proceed d.view _ := .gather span due hw full
    simpa only [view, buffer, handed, calls, outcomes] using this
  | none =>
    obtain ⟨seen, flushed⟩ := transition_startFlush hd command.kind
    have flushing : d.act (·.start command) = d.act (·.startFlush command.kind) := by
      simp only [act, start_of_span?_eq_none hc]
    rw [flushing, seen]
    exact ⟨.flush command hw hc, flushed⟩

private theorem transition_land (hd : d.WellFormed size metered) {kind : CommandKind}
    {batch : List Span} (hw : d.reporter.worker = .sending kind batch) {sender : Sender}
    (plain : sender.IsPlain size) (buffer : sender.buffer = d.reporter.sender.buffer)
    (handed : sender.handed = d.reporter.sender.handed)
    (calls : sender.calls = d.reporter.sender.calls)
    (outcomes : sender.outcomes = d.reporter.sender.outcomes.drop 1) (amount : Int)
    (fair : d.view.SendsFairly batch → amount = batch.length) {failing : Failing} {host : Host}
    (e : d.reporter.proceed d.host =
      ({ d.reporter with sender, worker := .after kind, failing }, host))
    (settled : settledIn host = settledIn d.host + weight d.reporter.metered amount)
    (dropped : host.tally.get .reporterDropped = d.host.tally.get .reporterDropped) :
    Transition size metered .proceed d.view (d.step .proceed).view ∧
      (d.step .proceed).WellFormed size metered := by
  have nonempty := hd.nonempty kind batch hw
  have seen : (d.step .proceed).view =
      { d.view with
        worker := .after kind
        settled := d.view.settled + weight metered amount
        outcomes := d.view.outcomes.drop 1
        answered := d.view.answered ++ [batch] } := by
    simp only [step, work, act, e, view, settled, dropped, buffer, handed, calls, outcomes]
    simp [hd.metered_eq, hw, Worker.forsakes, Worker.inFlight, batchOf, nonempty]
  rw [seen]
  simp only [step, work, act, e]
  exact ⟨.land kind batch amount hw fair,
    hd.keep plain rfl rfl rfl fun k b h => absurd h (Worker.after_ne_sending _ _ _)⟩

/-- A batch in flight is sent or fails. A loss below zero ends the worker where losses are
counted; else the batch lands. -/
private theorem transition_transmit (hd : d.WellFormed size metered) {kind : CommandKind}
    {batch : List Span} (hw : d.reporter.worker = .sending kind batch) :
    Transition size metered .proceed d.view (d.step .proceed).view ∧
      (d.step .proceed).WellFormed size metered := by
  have nonempty := hd.nonempty kind batch hw
  have e : d.reporter.proceed d.host = d.reporter.transmit kind batch d.host := by
    simp [RemoteReporter.proceed, hw]
  let sent := d.reporter.sender.sendBatch batch d.host
  let r : RemoteReporter := { d.reporter with sender := sent.2.1 }
  have plain : r.sender.IsPlain size := by simpa [r, sent] using hd.plain
  have settled_sent : settledIn sent.2.2 = settledIn d.host := by simp [settledIn, sent]
  have dropped_sent : sent.2.2.tally.get .reporterDropped =
      d.host.tally.get .reporterDropped := by
    simp [sent]
  have land := transition_land hd hw plain (by simp [r, sent]) (by simp [r, sent])
    (by simp [r, sent]) (by simp [r, sent])
  rcases d.reporter.sender.sendBatch_result batch d.host hd.plain with ok | failed
  · have he : d.reporter.proceed d.host = r.conclude kind (.ok batch.length) sent.2.2 :=
      e.trans (congrArg (fun outcome => r.conclude kind outcome sent.2.2) ok)
    obtain ⟨failing, host, hc, settled, dropped⟩ := conclude_ok r kind batch.length sent.2.2
    exact land _ (fun _ => rfl) (he.trans hc) (settled_sent ▸ settled) (dropped.trans dropped_sent)
  · obtain ⟨text, loss, cause, failed, named⟩ := failed
    have he : d.reporter.proceed d.host =
        r.conclude kind (.error (.failure (.sender text loss cause))) sent.2.2 :=
      e.trans (congrArg (fun outcome => r.conclude kind outcome sent.2.2) failed)
    rcases conclude_error r kind (.failure (.sender text loss cause)) sent.2.2 with
      ⟨counts, negative, hc⟩ | ⟨failing, host, hc, settled, dropped⟩
    · have lost : d.view.LosesWorker metered := by
        obtain ⟨other, below⟩ := lt_zero_of_lostSpans negative
        rcases named with rfl | ⟨message, named⟩
        · omega
        · exact ⟨hd.metered_eq ▸ counts, kind, batch, loss, message, hw, other, named, below⟩
      have e' : d.reporter.proceed d.host = ({ r with worker := .ended }, sent.2.2) := he.trans hc
      have seen : (d.step .proceed).view =
          { d.view with
            worker := .ended
            outcomes := d.view.outcomes.drop 1
            answered := d.view.answered ++ [d.view.worker.inFlight] } := by
        simp only [step, work, act, e', view, settled_sent, dropped_sent]
        simp [r, sent, hw, Worker.forsakes, Worker.inFlight, batchOf, nonempty]
      rw [seen]
      simp only [step, work, act, e']
      exact ⟨.die lost, hd.keep plain rfl rfl rfl (fun _ _ e => by cases e)⟩
    · have fair : d.view.SendsFairly batch →
          RemoteReporter.lostSpans kind (.failure (.sender text loss cause)) = batch.length := by
        intro fairly
        rcases named with rfl | ⟨message, named⟩
        · exact lostSpans_of_length kind text cause nonempty
        · rw [fairly loss message named]
          exact lostSpans_of_length kind text cause nonempty
      exact land _ fair (he.trans hc) (settled_sent ▸ settled) (dropped.trans dropped_sent)

private theorem transition_appending (hd : d.WellFormed size metered) {due : Nat}
    (hw : d.reporter.worker = .appending due) :
    Transition size metered .proceed d.view (d.step .proceed).view ∧
      (d.step .proceed).WellFormed size metered := by
  have lets : d.reporter.worker.forsakes d.reporter.abandoned = [] := by rw [hw]; rfl
  have idle : d.reporter.worker.inFlight = [] := by rw [hw]; rfl
  simp only [step, work_eq_act _ lets idle]
  by_cases hdue : due = 0
  · subst hdue
    have e : d.reporter.proceed d.host = d.reporter.conclude .append (.ok 0) d.host := by
      simp [RemoteReporter.proceed, hw]
    obtain ⟨failing, host, hc, settled, dropped⟩ := conclude_ok d.reporter .append 0 d.host
    rw [hc] at e
    have seen : (d.act RemoteReporter.proceed).view = { d.view with worker := .looking } := by
      simp only [act, e, view, settled, dropped]
      simp [weight, Worker.after]
    rw [seen]
    simp only [act, e]
    exact ⟨.keep hw, hd.keep hd.plain rfl rfl rfl (fun _ _ e => by cases e)⟩
  · have e : d.act RemoteReporter.proceed = d.act (·.startFlush .append) := by
      simp [act, RemoteReporter.proceed, hw, hdue]
    obtain ⟨seen, flushed⟩ := transition_startFlush hd .append
    rw [e, seen]
    exact ⟨.flushDue due hw hdue, flushed⟩

private theorem transition_proceed (hd : d.WellFormed size metered) :
    Transition size metered .proceed d.view (d.step .proceed).view ∧
      (d.step .proceed).WellFormed size metered := by
  cases hw : d.reporter.worker with
  | looking =>
    have lets : d.reporter.worker.forsakes d.reporter.abandoned = [] := by rw [hw]; rfl
    have idle : d.reporter.worker.inFlight = [] := by rw [hw]; rfl
    cases ha : d.reporter.abandoned with
    | true =>
      exact transition_turn hd .ended (by simp [RemoteReporter.proceed, hw, ha]) lets
        idle (fun _ _ e => by cases e) (.stop hw ha)
    | false =>
      exact transition_turn hd .waiting (by simp [RemoteReporter.proceed, hw, ha])
        lets idle (fun _ _ e => by cases e) (.look hw ha)
  | holding command =>
    cases ha : d.reporter.abandoned with
    | true =>
      have turns : d.reporter.proceed d.host = ({ d.reporter with worker := .ended }, d.host) := by
        simp [RemoteReporter.proceed, hw, ha]
      have seen : (d.step .proceed).view =
          { d.view with
            worker := .ended
            forsaken := d.view.forsaken ++ queuedSpans [command] } := by
        simp [step, work, act, turns, view, hw, ha, Worker.forsakes, Worker.inFlight]
      rw [seen]
      simp only [step, work, act, turns]
      exact ⟨.quit command hw ha, hd.keep hd.plain rfl rfl rfl (fun _ _ e => by cases e)⟩
    | false =>
      have lets : d.reporter.worker.forsakes d.reporter.abandoned = [] := by rw [hw, ha]; rfl
      have idle : d.reporter.worker.inFlight = [] := by rw [hw]; rfl
      exact transition_turn hd (.bound command)
        (by simp [RemoteReporter.proceed, hw, ha]) lets idle (fun _ _ e => by cases e)
        (.bind command hw ha)
  | bound command => exact transition_start hd hw
  | appending due => exact transition_appending hd hw
  | sending kind batch => exact transition_transmit hd hw
  | waiting | ended =>
    have same : d.step .proceed = d := by
      simp [step, work, act, RemoteReporter.proceed, hw, Worker.forsakes, Worker.inFlight]
    rw [same]
    exact ⟨.still, hd⟩

private theorem transition_report (hd : d.WellFormed size metered) (span : Span) :
    Transition size metered (.report span) d.view (d.step (.report span)).view ∧
      (d.step (.report span)).WellFormed size metered := by
  cases refuses : d.reporter.refuses with
  | true =>
    have e : d.reporter.offer span d.host =
        (d.reporter, d.host.count d.reporter.metered .reporterDropped 1) := by
      simp [RemoteReporter.offer, refuses]
    have seen : (d.step (.report span)).view =
        { d.view with
          reported := d.view.reported + 1
          dropped := d.view.dropped + weight metered 1 } := by
      simp [step, act, e, refuses, view, settledIn, weight, hd.metered_eq]
    rw [seen]
    refine ⟨.refuse span, ?_⟩
    simp only [step, act, e]
    exact ⟨hd.plain, hd.metered_eq, hd.closed_iff, hd.nonempty⟩
  | false =>
    have e : d.reporter.offer span d.host =
        ({ d.reporter with queue := d.reporter.queue ++ [.append span] }, d.host) := by
      simp [RemoteReporter.offer, refuses]
    have seen : (d.step (.report span)).view =
        { d.view with
          reported := d.view.reported + 1
          accepted := d.view.accepted ++ [span]
          queue := d.view.queue ++ [.append span] } := by
      simp [step, act, e, refuses, view]
    rw [seen]
    refine ⟨.accept span (hd.begun refuses), ?_⟩
    simp only [step, act, e]
    exact ⟨hd.plain, hd.metered_eq, hd.closed_iff, hd.nonempty⟩

private theorem transition_flush (hd : d.WellFormed size metered) :
    Transition size metered .flush d.view (d.step .flush).view ∧
      (d.step .flush).WellFormed size metered := by
  let shown := d.host.gauge d.reporter.metered .reporterQueueLength d.reporter.queue.length
  have settled : settledIn shown = settledIn d.host := by simp [settledIn, shown]
  have dropped : shown.tally.get .reporterDropped = d.host.tally.get .reporterDropped := by
    simp [shown]
  cases refuses : d.reporter.refuses with
  | true =>
    have e : d.reporter.tick d.host = (d.reporter, shown) := by
      simp [RemoteReporter.tick, refuses, shown]
    have seen : (d.step .flush).view = d.view := by
      simp only [step, act, e, view, settled, dropped]
    rw [seen]
    refine ⟨.still, ?_⟩
    simp only [step, act, e]
    exact hd.keep hd.plain rfl rfl rfl hd.nonempty
  | false =>
    have e : d.reporter.tick d.host =
        ({ d.reporter with queue := d.reporter.queue ++ [.flush] }, shown) := by
      simp [RemoteReporter.tick, refuses, shown]
    have seen : (d.step .flush).view = { d.view with queue := d.view.queue ++ [.flush] } := by
      simp only [step, act, e, view, settled, dropped]
    rw [seen]
    refine ⟨.ask (hd.begun refuses), ?_⟩
    simp only [step, act, e]
    exact hd.keep hd.plain rfl rfl rfl hd.nonempty

private theorem bookThrown_eq (r : RemoteReporter) (thrown : Nat) (h : Host) :
    settledIn (r.bookThrown thrown h) = settledIn h ∧
      (r.bookThrown thrown h).tally.get .reporterDropped =
        h.tally.get .reporterDropped + weight r.metered thrown := by
  unfold RemoteReporter.bookThrown
  split
  case isTrue none => simp [none, weight]
  case isFalse => simp [settledIn, weight]

/-- What is left when the sender was closed: the batch was answered, and its amount settled. -/
structure Released (size : Number) (metered : Bool) (d : Delivery) (batch : List Span)
    (sender : Sender) (host : Host) (amount : Int) : Prop where
  plain : sender.IsPlain size
  buffer : sender.buffer = d.reporter.sender.buffer
  handed : sender.handed = d.reporter.sender.handed
  calls : sender.calls = d.reporter.sender.calls
  outcomes : sender.outcomes = d.reporter.sender.outcomes.drop (batchOf batch).length
  settled : settledIn host = settledIn d.host + weight metered amount
  dropped : host.tally.get .reporterDropped = d.host.tally.get .reporterDropped
  none : batch = [] → amount = 0
  fair : d.view.SendsFairly batch → amount = batch.length

private theorem Released.of_sendBatch (plain : d.reporter.sender.IsPlain size) {batch : List Span}
    (nonempty : batch ≠ []) {host : Host} {amount : Int}
    (settled : settledIn host = settledIn (d.reporter.sender.sendBatch batch d.host).2.2 +
      weight metered amount)
    (dropped : host.tally.get .reporterDropped =
      (d.reporter.sender.sendBatch batch d.host).2.2.tally.get .reporterDropped)
    (fair : d.view.SendsFairly batch → amount = batch.length) :
    Released size metered d batch (d.reporter.sender.sendBatch batch d.host).2.1.release host
      amount where
  plain := by simpa using plain
  buffer := by simp
  handed := by simp
  calls := by simp
  outcomes := by simp [batchOf, nonempty]
  settled := by simpa [settledIn] using settled
  dropped := by simpa using dropped
  none := fun empty => absurd empty nonempty
  fair := fair

private theorem released_finishRelease (hd : d.WellFormed size metered) (batch : List Span) :
    ∃ fault sender host amount,
      d.reporter.finishRelease batch d.host = (fault, { d.reporter with sender }, host) ∧
        Released size metered d batch sender host amount := by
  have plain := hd.plain
  have closed := d.reporter.sender.finishClose_of_plain batch d.host plain
  by_cases empty : batch = []
  · rw [if_pos empty] at closed
    refine ⟨none, _, _, 0, by simp only [RemoteReporter.finishRelease, closed]; rfl, ?_⟩
    constructor <;> simp [empty, plain, settledIn, weight]
  · rw [if_neg empty] at closed
    let sent := d.reporter.sender.sendBatch batch d.host
    have closed : d.reporter.sender.finishClose batch d.host =
        (sent.1, sent.2.1.release, sent.2.2) := closed
    rcases d.reporter.sender.sendBatch_result batch d.host plain with ok | failed
    · have ok : sent.1 = .ok batch.length := ok
      refine ⟨none, sent.2.1.release, _, _,
        by simp only [RemoteReporter.finishRelease, closed, ok]; rfl,
        .of_sendBatch plain empty ?_ (by simp [sent]) fun _ => rfl⟩
      rw [← hd.metered_eq, ← settledIn_count_success]
      simp [settledIn, sent]
    · obtain ⟨text, loss, cause, failed, named⟩ := failed
      have failed : sent.1 = .error (.failure (.sender text loss cause)) := failed
      have fair : d.view.SendsFairly batch → loss = batch.length := by
        intro fairly
        rcases named with rfl | ⟨message, named⟩
        · rfl
        · exact fairly loss message named
      cases hc : sent.2.2.count? d.reporter.metered .reporterFailure loss with
      | none =>
        have negative := (Host.count?_eq_none.mp hc).2
        refine ⟨_, sent.2.1.release, sent.2.2, 0,
          by simp only [RemoteReporter.finishRelease, closed, failed, hc]; rfl,
          .of_sendBatch plain empty (by simp [weight, sent]) rfl fun fairly => ?_⟩
        have := fair fairly
        omega
      | some counted =>
        refine ⟨none, sent.2.1.release, _, loss,
          by simp only [RemoteReporter.finishRelease, closed, failed, hc]; rfl,
          .of_sendBatch plain empty ?_ ?_ fair⟩
        · rw [← hd.metered_eq, ← settledIn_of_count? hc]
          simp [settledIn]
        · simpa [sent] using Host.get_of_count?_eq_some hc .reporterDropped

private theorem WellFormed.pass (hd : d.WellFormed size metered) {d' : Delivery}
    (begun : d.closing ≠ .notBegun) (begun' : d'.closing ≠ .notBegun)
    (sender : d'.reporter.sender = d.reporter.sender)
    (worker : d'.reporter.worker = d.reporter.worker)
    (metered_eq : d'.reporter.metered = d.reporter.metered)
    (closed : d'.reporter.closed = d.reporter.closed) : d'.WellFormed size metered := by
  refine ⟨sender ▸ hd.plain, metered_eq.trans hd.metered_eq, ?_, worker ▸ hd.nonempty⟩
  rw [closed, hd.closed_iff]
  exact iff_of_true begun begun'

private theorem transition_drain (hd : d.WellFormed size metered) {given : Bool} {thrown : Nat}
    (hc : d.closing = .draining given thrown) :
    Transition size metered .close d.view (d.drainStep given thrown).view ∧
      (d.drainStep given thrown).WellFormed size metered := by
  have begun : d.closing ≠ .notBegun := by simp [hc]
  unfold drainStep
  cases hq : d.reporter.queue with
  | nil =>
    obtain ⟨settled, dropped⟩ := bookThrown_eq d.reporter thrown d.host
    have seen : ({ d with
          host := d.reporter.bookThrown thrown d.host
          closing := if given then .waking else .leaving } : Delivery).view =
        { d.view with
          closing := if given then .waking else .leaving
          dropped := d.view.dropped + weight metered thrown } := by
      simp only [view, settled, dropped, hd.metered_eq]
    have next : (if given then Closing.waking else .leaving) ≠ .notBegun := by
      cases given <;> simp
    exact ⟨seen ▸ .book hc hq, hd.pass begun next rfl rfl rfl rfl⟩
  | cons command rest =>
    exact ⟨.throw command rest hc hq, hd.pass begun (fun e => by cases e) rfl rfl rfl rfl⟩

private theorem transition_wake (hd : d.WellFormed size metered) (hc : d.closing = .waking) :
    Transition size metered .close d.view d.closeStep.view ∧
      d.closeStep.WellFormed size metered := by
  have woken : ∃ queue, d.reporter.wake = { d.reporter with queue } ∧
      (queue = d.reporter.queue ∨ queue = d.reporter.queue ++ [.close]) := by
    unfold RemoteReporter.wake
    split
    · exact ⟨_, rfl, .inl rfl⟩
    · exact ⟨_, rfl, .inr rfl⟩
  obtain ⟨queue, same, woken⟩ := woken
  simp only [closeStep, hc, same]
  exact ⟨.wake hc woken, hd.pass (by simp [hc]) (fun e => by cases e) rfl rfl rfl rfl⟩

private theorem transition_part (hd : d.WellFormed size metered) (hc : d.closing = .leaving) :
    Transition size metered .close d.view d.closeStep.view ∧
      d.closeStep.WellFormed size metered := by
  have started := d.reporter.sender.startClose_of_plain hd.plain
  have seen : d.closeStep.view =
      { d.view with
        closing := .releasing d.view.buffer
        buffer := []
        handed := d.view.handed ++ batchOf d.view.buffer
        calls := d.view.calls ++ [.close] } := by
    simp only [closeStep, hc, RemoteReporter.startRelease, started, view]
    simp [Sender.calls_note _ hd.plain]
  rw [seen]
  refine ⟨.part hc, ?_⟩
  simp only [closeStep, hc, RemoteReporter.startRelease, started]
  refine ⟨by simpa using hd.plain, hd.metered_eq, ?_, hd.nonempty⟩
  simpa [hc] using hd.closed_iff

private theorem transition_release (hd : d.WellFormed size metered) {batch : List Span}
    (hc : d.closing = .releasing batch) :
    Transition size metered .close d.view d.closeStep.view ∧
      d.closeStep.WellFormed size metered := by
  obtain ⟨fault, sender, host, amount, finished, released⟩ := released_finishRelease hd batch
  have seen : d.closeStep.view =
      { d.view with
        closing := .returned
        settled := d.view.settled + weight metered amount
        outcomes := d.view.outcomes.drop (batchOf batch).length
        answered := d.view.answered ++ batchOf batch } := by
    simp only [closeStep, hc, finished, view, released.buffer, released.handed, released.calls,
      released.outcomes, released.settled, released.dropped]
  rw [seen]
  refine ⟨.release batch amount hc released.none released.fair, ?_⟩
  simp only [closeStep, hc, finished]
  refine ⟨released.plain, hd.metered_eq, ?_, hd.nonempty⟩
  simpa [hc] using hd.closed_iff

private theorem transition_close (hd : d.WellFormed size metered) :
    Transition size metered .close d.view (d.step .close).view ∧
      (d.step .close).WellFormed size metered := by
  have pass {d' : Delivery} (begun : d.closing ≠ .notBegun) (begun' : d'.closing ≠ .notBegun)
      (same : d'.reporter = d.reporter) : d'.WellFormed size metered :=
    hd.pass begun begun' (by rw [same]) (by rw [same]) (by rw [same]) (by rw [same])
  have passes {next : Closing} (p : d.closing.Passes next) : d.view.closing.Passes next := p
  simp only [step]
  cases hc : d.closing with
  | notBegun =>
    simp only [closeStep, hc]
    exact ⟨.pass (passes (by rw [hc]; exact .enter)), hd.plain, hd.metered_eq, by simp, hd.nonempty⟩
  | entering =>
    have begun : d.closing ≠ .notBegun := by simp [hc]
    by_cases full : d.reporter.isFull = true
    · simp only [closeStep, hc, full, if_true]
      exact ⟨.pass (passes (by rw [hc]; exact .crowd)), pass begun (fun e => by cases e) rfl⟩
    · simp only [closeStep, hc, full]
      exact ⟨.request hc, hd.pass begun (fun e => by cases e) rfl rfl rfl rfl⟩
  | waiting =>
    have begun : d.closing ≠ .notBegun := by simp [hc]
    by_cases alive : d.reporter.isAlive = true
    · simp only [closeStep, hc, alive, if_true]
      exact ⟨.pass (passes (by rw [hc]; exact .tarry)), pass begun (fun e => by cases e) rfl⟩
    · have ended : d.reporter.worker = .ended :=
        RemoteReporter.ended_of_not_alive (Bool.not_eq_true _ ▸ alive)
      simp only [closeStep, hc, alive]
      exact ⟨.finish hc ended, pass begun (fun e => by cases e) rfl⟩
  | late =>
    simp only [closeStep, hc]
    exact ⟨.pass (passes (by rw [hc]; exact .warn)),
      pass (by simp [hc]) (fun e => by cases e) rfl⟩
  | resigning =>
    simp only [closeStep, hc]
    exact ⟨.resign hc, hd.pass (by simp [hc]) (fun e => by cases e) rfl rfl rfl rfl⟩
  | draining given thrown =>
    simp only [closeStep, hc]
    exact transition_drain hd hc
  | waking => exact transition_wake hd hc
  | leaving => exact transition_part hd hc
  | releasing batch => exact transition_release hd hc
  | returned =>
    simp only [closeStep, hc]
    exact ⟨.still, hd⟩

/-- One move does one of the things a transition can be, and keeps a delivery well formed. -/
theorem transition_step (hd : d.WellFormed size metered) (move : Move) :
    Transition size metered move d.view (d.step move).view ∧
      (d.step move).WellFormed size metered := by
  cases move with
  | report span => exact transition_report hd span
  | flush => exact transition_flush hd
  | take => exact transition_take hd
  | proceed => exact transition_proceed hd
  | close => exact transition_close hd

/-- What every transition keeps holds after every run. A transition may rely on what follows from
the loss of a worker on the way. -/
theorem run_induction {P : View → Prop} {excuse : Prop} (hd : d.WellFormed size metered)
    (start : P d.view)
    (step : ∀ {move v w}, Transition size metered move v w →
      (move = .proceed → v.LosesWorker metered → excuse) → P v → P w)
    (moves : List Move)
    (lost : ∀ before after, moves = before ++ .proceed :: after →
      (d.run before).view.LosesWorker metered → excuse) :
    P (d.run moves).view := by
  induction moves generalizing d with
  | nil => exact start
  | cons move rest ih =>
    obtain ⟨moved, kept⟩ := transition_step hd move
    refine ih kept (step moved ?_ start) ?_
    · rintro rfl now
      exact lost [] rest rfl now
    · rintro before after rfl later
      exact lost (move :: before) after rfl later

theorem wellFormed_run (hd : d.WellFormed size metered) (moves : List Move) :
    (d.run moves).WellFormed size metered := by
  induction moves generalizing d with
  | nil => exact hd
  | cons move rest ih => exact ih (transition_step hd move).2

end Delivery

end Tracing
