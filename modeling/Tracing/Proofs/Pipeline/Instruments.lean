import Tracing.Proofs.Delivery.Accounting
import Tracing.Settings.TracerSettings
/-!
Which instruments the parts of a pipeline move. The sampler, the filter and the delivery share one
tally, and none of them moves an instrument that another one's accounts are kept in.
-/

set_option autoImplicit false
set_option relaxedAutoImplicit false

namespace Tracing

open Metrics (Instrument)

namespace Host

def MovesOnly (h : Host) (moved : List Instrument) (h' : Host) : Prop :=
  ∀ i, i ∉ moved → h'.tally.get i = h.tally.get i

variable {h h' h'' : Host} {moved : List Instrument}

theorem MovesOnly.of_tally (same : h'.tally = h.tally) : h.MovesOnly moved h' := by
  intro i _
  rw [same]

theorem MovesOnly.trans (first : h.MovesOnly moved h') (second : h'.MovesOnly moved h'') :
    h.MovesOnly moved h'' := by
  intro i apart
  rw [second i apart, first i apart]

theorem MovesOnly.mono {more : List Instrument} (only : h.MovesOnly moved h')
    (among : moved ⊆ more) : h.MovesOnly more h' :=
  fun i apart => only i fun m => apart (among m)

theorem movesOnly_count {i : Instrument} (m : i ∈ moved) (metered : Bool) (n : Nat) :
    h.MovesOnly moved (h.count metered i n) := by
  intro j apart
  have differ : i ≠ j := fun same => apart (same ▸ m)
  simp [differ]

private theorem movesOnly_gauge {i : Instrument} (m : i ∈ moved) (metered : Bool) (n : Int) :
    h.MovesOnly moved (h.gauge metered i n) := by
  intro j apart
  have differ : i ≠ j := fun same => apart (same ▸ m)
  simp [differ]

private theorem movesOnly_of_count? {i : Instrument} (m : i ∈ moved) {metered : Bool} {n : Int}
    (counted : h.count? metered i n = some h') : h.MovesOnly moved h' := by
  intro j apart
  have differ : i ≠ j := fun same => apart (same ▸ m)
  simpa [differ] using get_of_count?_eq_some counted j

end Host

namespace RemoteReporter

def workerInstruments : List Instrument := [.reporterSuccess, .reporterFailure]

variable (r : RemoteReporter) (h : Host)

private theorem movesOnly_conclude (kind : CommandKind) (outcome : Except Fault Nat) :
    h.MovesOnly workerInstruments (r.conclude kind outcome h).2 := by
  cases outcome with
  | ok sent =>
    have counted : h.MovesOnly workerInstruments (h.count r.metered .reporterSuccess sent) :=
      Host.movesOnly_count (by decide) _ _
    unfold conclude
    dsimp only
    split
    · exact counted.trans (.of_tally rfl)
    · exact counted
  | error fault =>
    unfold conclude
    dsimp only
    split
    case h_1 => exact .of_tally rfl
    case h_2 host counted =>
      have moved : h.MovesOnly workerInstruments host :=
        Host.movesOnly_of_count? (by decide) counted
      dsimp only
      split
      · exact moved
      · exact moved.trans (.of_tally rfl)

private theorem movesOnly_startFlush (kind : CommandKind) :
    h.MovesOnly workerInstruments (r.startFlush kind h).2 := by
  unfold startFlush
  dsimp only
  split
  · exact movesOnly_conclude _ h kind _
  · exact .of_tally rfl

private theorem tally_take : (r.take h).2.tally = h.tally := by
  unfold take
  split <;> rfl

private theorem movesOnly_start (command : Command) :
    h.MovesOnly workerInstruments (r.start command h).2 := by
  cases command with
  | flush | close => exact movesOnly_startFlush _ h _
  | append span =>
    unfold start
    dsimp only
    split
    · exact movesOnly_conclude _ h _ _
    · exact .of_tally rfl

private theorem movesOnly_proceed : h.MovesOnly workerInstruments (r.proceed h).2 := by
  unfold proceed
  split
  case h_3 command _ => exact movesOnly_start r h command
  case h_4 =>
    split
    · exact movesOnly_conclude _ h _ _
    · exact movesOnly_startFlush _ h _
  case h_5 kind batch _ =>
    have sent : h.MovesOnly workerInstruments (r.sender.sendBatch batch h).2.2 :=
      .of_tally (Sender.tally_sendBatch _ _ _)
    exact sent.trans (movesOnly_conclude _ _ kind _)
  all_goals exact .of_tally rfl

theorem movesOnly_offer (span : Span) :
    h.MovesOnly [.reporterDropped] (r.offer span h).2 := by
  unfold offer
  split
  · exact Host.movesOnly_count (by decide) _ _
  · exact .of_tally rfl

private theorem movesOnly_tick : h.MovesOnly [.reporterQueueLength] (r.tick h).2 := by
  have shown : h.MovesOnly [.reporterQueueLength]
      (h.gauge r.metered .reporterQueueLength r.queue.length) :=
    Host.movesOnly_gauge (by decide) _ _
  unfold tick
  dsimp only
  split <;> exact shown

private theorem movesOnly_bookThrown (thrown : Nat) :
    h.MovesOnly [.reporterDropped] (r.bookThrown thrown h) := by
  unfold bookThrown
  split
  · exact .of_tally rfl
  · have counted : h.MovesOnly [.reporterDropped] (h.count r.metered .reporterDropped thrown) :=
      Host.movesOnly_count (by decide) _ _
    exact counted.trans (.of_tally rfl)

def closingInstruments : List Instrument :=
  [.reporterSuccess, .reporterFailure, .reporterQueueLength]

private theorem tally_finishClose (batch : List Span) :
    (r.sender.finishClose batch h).2.2.tally = h.tally := by
  unfold Sender.finishClose
  split
  · rfl
  · dsimp only
    split
    · rfl
    · exact Sender.tally_sendBatch _ _ _

/-- Closing a sender shows an empty queue, unless the counter of failures refuses the loss. -/
theorem moves_finishRelease (batch : List Span) :
    h.MovesOnly closingInstruments (r.finishRelease batch h).2.2 ∧
      ((r.finishRelease batch h).1 = none → r.metered = true →
        (r.finishRelease batch h).2.2.tally.get .reporterQueueLength = 0) := by
  have closed : h.MovesOnly closingInstruments (r.sender.finishClose batch h).2.2 :=
    .of_tally (tally_finishClose r h batch)
  have shows : ∀ host : Host,
      host.MovesOnly closingInstruments (host.gauge r.metered .reporterQueueLength 0) :=
    fun host => Host.movesOnly_gauge (by decide) _ _
  unfold finishRelease
  dsimp only
  split
  case h_1 sent _ =>
    refine ⟨(closed.trans (Host.movesOnly_count (by decide) _ _)).trans (shows _), ?_⟩
    intro _ metered
    simp [metered]
  case h_2 text dropped cause _ =>
    split
    case h_1 => exact ⟨closed, fun none => by cases none⟩
    case h_2 host counted =>
      have moved : h.MovesOnly closingInstruments host :=
        closed.trans (Host.movesOnly_of_count? (by decide) counted)
      refine ⟨(moved.trans (.of_tally rfl)).trans (shows _), ?_⟩
      intro _ metered
      simp [metered]
  case h_3 =>
    refine ⟨(closed.trans (.of_tally rfl)).trans (shows _), ?_⟩
    intro _ metered
    simp [metered]

/-- No counter refuses what a transport over the network loses: it loses whole batches. -/
theorem finishRelease_of_plain {size : Number} (plain : r.sender.IsPlain size)
    (unscripted : r.sender.outcomes = []) (batch : List Span) :
    (r.finishRelease batch h).1 = none := by
  have closed := r.sender.finishClose_of_plain batch h plain
  unfold finishRelease
  by_cases empty : batch = []
  · rw [if_pos empty] at closed
    rw [closed]
  · rw [if_neg empty] at closed
    rw [closed]
    rcases r.sender.sendBatch_result batch h plain with sent | ⟨text, dropped, cause, failed, named⟩
    · dsimp only
      rw [sent]
    · have whole : dropped = batch.length := by
        rcases named with same | ⟨message, next⟩
        · exact same
        · simp [unscripted] at next
      dsimp only
      rw [failed]
      dsimp only
      split
      case h_1 refused =>
        have negative := (Host.count?_eq_none.mp refused).2
        omega
      case h_2 => rfl

end RemoteReporter

namespace Delivery

def moved (d : Delivery) : Move → List Instrument
  | .report _ => [.reporterDropped]
  | .flush => [.reporterQueueLength]
  | .take => []
  | .proceed => RemoteReporter.workerInstruments
  | .close =>
    match d.closing with
    | .releasing _ => RemoteReporter.closingInstruments
    | _ => [.reporterDropped]

private theorem movesOnly_closeStep (d : Delivery) : d.host.MovesOnly
    (d.moved .close) d.closeStep.host := by
  unfold moved closeStep
  cases d.closing with
  | notBegun | waiting | late | resigning | waking | leaving | returned => exact .of_tally rfl
  | entering =>
    dsimp only
    split <;> exact .of_tally rfl
  | draining given thrown =>
    dsimp only [drainStep]
    split
    · exact .of_tally rfl
    · exact RemoteReporter.movesOnly_bookThrown d.reporter d.host thrown
  | releasing batch => exact (RemoteReporter.moves_finishRelease d.reporter d.host batch).1

theorem movesOnly_step (d : Delivery) (move : Move) :
    d.host.MovesOnly (d.moved move) (d.step move).host := by
  cases move with
  | report span => exact RemoteReporter.movesOnly_offer d.reporter d.host span
  | flush => exact RemoteReporter.movesOnly_tick d.reporter d.host
  | take => exact .of_tally (RemoteReporter.tally_take d.reporter d.host)
  | proceed => exact RemoteReporter.movesOnly_proceed d.reporter d.host
  | close => exact movesOnly_closeStep d

end Delivery

namespace Filter

def instruments : List Instrument :=
  [.filteredSpans, .deferredStarted, .deferredSent, .deferredDropped, .deferredPending]

/-- A filter that has as many spans in its books as it holds, and some that it just took out, and
shows their number. -/
structure Shows (f : Filter) (takenOut : Nat) (h : Host) : Prop where
  metered : f.metered = true
  booked : f.pendingCount = f.pending.length + takenOut
  shown : h.tally.get .deferredPending = f.pendingCount

def thrownAway (h : Host) : Int := h.tally.get .filteredSpans + h.tally.get .deferredDropped

section Parts

variable {f : Filter} {h : Host} {held : List Span}

private theorem moves_dropHeld (shows : f.Shows held.length h) :
    (f.dropHeld held h).1.pending = f.pending ∧
      (f.dropHeld held h).1.Shows 0 (f.dropHeld held h).2 ∧
      h.MovesOnly instruments (f.dropHeld held h).2 ∧
      thrownAway (f.dropHeld held h).2 = thrownAway h + held.length := by
  obtain ⟨metered, booked, shown⟩ := shows
  unfold dropHeld releaseHeld
  split
  case isTrue none =>
    have empty : held.length = 0 := by simpa using none
    rw [empty] at booked ⊢
    exact ⟨rfl, ⟨metered, booked, shown⟩, .of_tally rfl, by simp⟩
  case isFalse =>
    have gauged : h.MovesOnly instruments
        (h.gauge f.metered .deferredPending (f.pendingCount - held.length)) :=
      Host.movesOnly_gauge (by decide) _ _
    refine ⟨rfl, ⟨metered, ?_, ?_⟩, gauged.trans (Host.movesOnly_count (by decide) _ _), ?_⟩
    · simp only
      omega
    · simp [metered]
    · simp [thrownAway, metered]
      omega

private theorem moves_dropSpan (shows : f.Shows held.length h) :
    (f.dropSpan held h).1.pending = f.pending ∧
      (f.dropSpan held h).1.Shows 0 (f.dropSpan held h).2 ∧
      h.MovesOnly instruments (f.dropSpan held h).2 ∧
      thrownAway (f.dropSpan held h).2 = thrownAway h + held.length + 1 := by
  have metered := shows.metered
  have counted : h.MovesOnly instruments (h.count f.metered .filteredSpans 1) :=
    Host.movesOnly_count (by decide) _ _
  have still : f.Shows held.length (h.count f.metered .filteredSpans 1) :=
    ⟨metered, shows.booked, by simp [shows.shown]⟩
  obtain ⟨same, shows', only, lost⟩ := moves_dropHeld still
  refine ⟨same, shows', counted.trans only, ?_⟩
  unfold dropSpan
  rw [lost]
  simp [thrownAway, metered]
  omega

private theorem moves_holdBack (span : Span) (shows : f.Shows held.length h) :
    (f.holdBack span held h).1.pending.length = f.pending.length + held.length + 1 ∧
      (f.holdBack span held h).1.Shows 0 (f.holdBack span held h).2 ∧
      h.MovesOnly instruments (f.holdBack span held h).2 ∧
      thrownAway (f.holdBack span held h).2 = thrownAway h := by
  obtain ⟨metered, booked, shown⟩ := shows
  have counted : h.MovesOnly instruments (h.count f.metered .deferredStarted 1) :=
    Host.movesOnly_count (by decide) _ _
  unfold holdBack
  refine ⟨?_, ⟨metered, ?_, ?_⟩, counted.trans (Host.movesOnly_gauge (by decide) _ _), ?_⟩
  · simp only [List.length_append, List.length_map, List.length_singleton]
    omega
  · simp only [List.length_append, List.length_map, List.length_singleton]
    omega
  · simp [metered]
  · simp [thrownAway]

private theorem length_without (f : Filter) (id : Int) :
    (f.without id).pending.length + (f.waitingFor id).length = f.pending.length := by
  have parts := List.length_eq_length_filter_add (l := f.pending) (fun entry => entry.1 == id)
  unfold without waitingFor
  rw [List.length_map]
  change (f.pending.filter fun entry => !(entry.1 == id)).length +
    (f.pending.filter fun entry => entry.1 == id).length = _
  omega

/-- A filter that takes a span forwards it, holds it or throws it away, and does so once with each
span that it held. -/
theorem moves_pass (shows : f.Shows 0 h) (span : Span) :
    (f.pass span h).2.1.Shows 0 (f.pass span h).2.2 ∧
      h.MovesOnly instruments (f.pass span h).2.2 ∧
      ((f.pass span h).1.length : Int) + (f.pass span h).2.1.pending.length +
        thrownAway (f.pass span h).2.2 = f.pending.length + thrownAway h + 1 := by
  have size := length_without f span.spanId
  have taken : (f.without span.spanId).Shows (f.waitingFor span.spanId).length h := by
    refine ⟨shows.metered, ?_, shows.shown⟩
    have booked := shows.booked
    simp only [without] at size ⊢
    omega
  have metered : (f.without span.spanId).metered = true := shows.metered
  obtain ⟨same, thrown, only, lost⟩ := moves_dropSpan taken
  -- too short; or short, and a root or held with its children; or long, without children or with
  unfold pass
  dsimp only
  split
  · refine ⟨thrown, only, ?_⟩
    rw [same, lost, List.length_nil]
    omega
  · split
    · split
      · refine ⟨thrown, only, ?_⟩
        rw [same, lost, List.length_nil]
        omega
      · obtain ⟨longer, kept, only, lost⟩ := moves_holdBack span taken
        refine ⟨kept, only, ?_⟩
        rw [longer, lost, List.length_nil]
        omega
    · split
      case isTrue none =>
        have empty : (f.waitingFor span.spanId).length = 0 := by simpa using none
        rw [empty] at taken size
        refine ⟨taken, .of_tally rfl, ?_⟩
        rw [List.length_singleton]
        dsimp only
        omega
      case isFalse =>
        have gauged : h.MovesOnly instruments ((f.without span.spanId).releaseHeld
            (f.waitingFor span.spanId).length h).2 :=
          Host.movesOnly_gauge (by decide) _ _
        refine ⟨⟨metered, ?_, ?_⟩, gauged.trans (Host.movesOnly_count (by decide) _ _), ?_⟩
        · have booked := taken.booked
          simp only [releaseHeld]
          omega
        · simp [releaseHeld, metered]
        · simp only [releaseHeld, List.length_append, List.length_singleton]
          simp [thrownAway]
          omega

theorem moves_clear (shows : f.Shows 0 h) :
    (f.clear h).1.pending = [] ∧ (f.clear h).1.Shows 0 (f.clear h).2 ∧
      h.MovesOnly instruments (f.clear h).2 ∧
      thrownAway (f.clear h).2 = thrownAway h + f.pending.length := by
  have metered := shows.metered
  have shown : ∀ host : Host,
      host.MovesOnly instruments (host.gauge f.metered .deferredPending 0) :=
    fun host => Host.movesOnly_gauge (by decide) _ _
  unfold clear
  dsimp only
  refine ⟨rfl, ⟨metered, rfl, by simp [metered]⟩, ?_, ?_⟩
  · split
    · exact shown h
    · exact Host.MovesOnly.trans (Host.movesOnly_count (by decide) _ _) (shown _)
  · split
    case isTrue none => simp [thrownAway, none]
    case isFalse =>
      simp [thrownAway, metered]
      omega

end Parts

end Filter

@[simp] theorem Watch.tally_record (w : Watch) (h : Host) : (w.record h).tally = h.tally := by
  unfold record
  split <;> rfl

@[simp] theorem Sampler.tally_close (watch : Watch) (h : Host) (s : Sampler) :
    (s.close watch h).2.2.tally = h.tally := by
  induction s generalizing watch h with
  | const | probabilistic | rateLimiting | guaranteed | perOperation => simp [close]
  | remote control delegateWatch delegate ih =>
    simp only [close]
    split
    · simp
    · split
      · simp
      · split <;> simp [ih]

namespace RemoteSampler

def instruments : List Instrument :=
  [.samplerRetrieved, .samplerQueryFailure, .samplerUpdated, .samplerParsingFailure]

variable (r : RemoteSampler) (h : Host)

theorem tally_close (own : Watch) : (r.close own h).2.2.tally = h.tally := by
  simp [close]

private theorem movesOnly_replace (watch : Watch) (s : Sampler) :
    h.MovesOnly instruments (r.replace watch s h).2.2 := by
  unfold replace
  split
  · exact .of_tally (Sampler.tally_close watch h s)
  · have counted : h.MovesOnly instruments (h.count r.control.metered .samplerUpdated 1) :=
      Host.movesOnly_count (by decide) _ _
    exact counted.trans (.of_tally (by simp))

theorem tally_ask (own : Watch) : (r.ask own h).2.2.tally = h.tally := by
  unfold ask
  dsimp only
  split
  · split
    case h_1 closed | h_2 closed =>
      have same := congrArg (fun answer => answer.2.2.tally) closed
      exact same.symm.trans (tally_close _ _ own)
  · rfl

private theorem movesOnly_heed (reply : Except Fault Strategy) :
    h.MovesOnly instruments (r.heed reply h).2 := by
  cases reply with
  | ok => exact Host.movesOnly_count (by decide) _ _
  | error =>
    have counted : h.MovesOnly instruments (h.count r.control.metered .samplerQueryFailure 1) :=
      Host.movesOnly_count (by decide) _ _
    exact counted.trans (.of_tally rfl)

private theorem movesOnly_fetch (own : Watch) : h.MovesOnly instruments (r.fetch own h).2.2 := by
  have asked : h.MovesOnly instruments (r.ask own h).2.2 := .of_tally (tally_ask r h own)
  exact asked.trans (movesOnly_heed _ _ _)

private theorem movesOnly_applyOperations (p : OperationParameters) :
    h.MovesOnly instruments (r.applyOperations p h).2.2 := by
  unfold applyOperations
  split
  case h_1 table _ =>
    dsimp only
    split
    case h_1 | h_2 => exact .of_tally rfl
    case h_3 =>
      have noticed : h.MovesOnly instruments
          { h with notices := h.notices ++ (table.update p h.now).notices } := .of_tally rfl
      exact (noticed.trans (Host.movesOnly_count (by decide) _ _)).trans (.of_tally rfl)
  case h_2 =>
    split
    · exact .of_tally rfl
    · dsimp only
      split
      · exact .of_tally rfl
      · exact Host.MovesOnly.trans (.of_tally rfl) (movesOnly_replace r _ {} _)

private theorem movesOnly_applyUniform (s : Strategy) :
    h.MovesOnly instruments (r.applyUniform s h).2.2 := by
  unfold applyUniform
  split
  · exact .of_tally rfl
  · exact Host.MovesOnly.trans (Host.movesOnly_count (by decide) _ _) (.of_tally rfl)
  · split
    · exact .of_tally rfl
    · exact movesOnly_replace r h {} _

private theorem movesOnly_update (own : Watch) : h.MovesOnly instruments (r.update own h).2.2 := by
  have fetched := movesOnly_fetch r h own
  unfold update
  dsimp only
  split
  · exact fetched
  · split
    · exact fetched
    · refine fetched.trans ?_
      unfold apply
      split
      · exact movesOnly_applyOperations _ _ _
      · exact movesOnly_applyUniform _ _ _

theorem movesOnly_poll (own : Watch) : h.MovesOnly instruments (r.poll own h).2 := by
  have updated := movesOnly_update r h own
  unfold poll
  split
  case h_1 quiet =>
    rw [quiet] at updated
    exact updated
  case h_2 failed =>
    rw [failed] at updated
    exact updated.trans (.of_tally rfl)

end RemoteSampler

theorem SamplerSettings.movesOnly_createSampler (s : SamplerSettings) (service : Json)
    (metered : Bool) (h : Host) :
    h.MovesOnly RemoteSampler.instruments (s.createSampler service metered h).2 := by
  unfold createSampler
  split
  case h_1 | h_2 | h_3 => exact .of_tally rfl
  case h_4 =>
    split
    · exact .of_tally rfl
    · exact RemoteSampler.movesOnly_poll _ _ _

namespace Pipeline

def sampleInstruments : List Instrument := [.startedSampled, .startedNotSampled]

variable (p : Pipeline) (h : Host) (operation traceId : Json)

private theorem sample_ok_or_error :
    (p.sample operation traceId h).2.2 = h ∧
        (p.sample operation traceId h).1.toOption = none ∨
      ∃ status, (p.sample operation traceId h).1 = .ok status ∧
        (p.sample operation traceId h).2.2 = h.count p.metered
          (if status.sampled then .startedSampled else .startedNotSampled) 1 := by
  unfold sample
  dsimp only
  split
  case h_1 => exact .inl ⟨rfl, rfl⟩
  case h_2 status _ => exact .inr ⟨status, rfl, rfl⟩

theorem movesOnly_sample :
    h.MovesOnly sampleInstruments (p.sample operation traceId h).2.2 := by
  rcases sample_ok_or_error p h operation traceId with ⟨same, _⟩ | ⟨status, _, counted⟩
  · exact .of_tally (congrArg Host.tally same)
  · rw [counted]
    split <;> exact Host.movesOnly_count (by decide) _ _

theorem started_sample (metered : p.metered = true) :
    let answer := (p.sample operation traceId h).1.toOption.toList
    let after := (p.sample operation traceId h).2.2
    after.tally.get .startedSampled =
        h.tally.get .startedSampled + answer.countP (·.sampled) ∧
      after.tally.get .startedNotSampled =
        h.tally.get .startedNotSampled + answer.countP (!·.sampled) := by
  rcases sample_ok_or_error p h operation traceId with ⟨same, refused⟩ | ⟨status, given, counted⟩
  · rw [same, refused]
    simp
  · rw [counted, given, metered]
    cases sampled : status.sampled <;> simp [Except.toOption, sampled]

end Pipeline

end Tracing
