import Tracing.Proofs.Pipeline.Acts
import Tracing.Proofs.Pipeline.Instruments
/-!
Where the spans are. The filter, the calls that report and the delivery hand spans on to each other,
in whatever order the acts come: after every act each sampled span that was reported is with one of
them or in one of the counters, and each answer is counted.
-/

set_option autoImplicit false
set_option relaxedAutoImplicit false

namespace Tracing

open Metrics (Instrument)

def Act.instruments : Act → List Instrument
  | .sample .. => Pipeline.sampleInstruments
  | .report _ => Filter.instruments
  | .goOn _ => [.reporterDropped]
  | .flush => [.reporterQueueLength]
  | .take => []
  | .proceed => RemoteReporter.workerInstruments
  | .close => Filter.instruments ++ .reporterDropped :: RemoteReporter.closingInstruments
  | .poll => RemoteSampler.instruments
  | .clock _ | .network _ => []

def accountInstruments : List Instrument :=
  [.reporterSuccess, .reporterFailure, .reporterDropped, .reporterQueueLength, .filteredSpans,
    .deferredDropped, .deferredPending]

namespace Line

def held (l : Line) : Nat :=
  match l.filter with
  | none => 0
  | some f => f.pending.length

/-- How many spans the calls that report have still to hand over. -/
def inHand (l : Line) : Nat := (l.calls.map (·.left.length)).sum

/-- The filter, if there is one, has its books in order. -/
def Books (l : Line) : Prop :=
  match l.filter with
  | none => l.host.tally.get .deferredPending = 0
  | some f => f.Shows 0 l.host

variable {l : Line}

theorem Books.pending (books : l.Books) : l.host.tally.get .deferredPending = l.held := by
  obtain ⟨_, _, _, filter, _, _, _, _⟩ := l
  cases filter with
  | none => exact books
  | some f =>
    have shown := books.shown
    rw [books.booked] at shown
    exact shown

theorem Books.inside {moved : List Instrument} {h : Host} (books : l.Books)
    (only : l.host.MovesOnly moved h) (apart : .deferredPending ∉ moved) : (l.inside h).Books := by
  have same := only .deferredPending apart
  obtain ⟨_, _, _, filter, _, _, _, _⟩ := l
  cases filter with
  | none => exact same.trans books
  | some f => exact ⟨books.metered, books.booked, same.trans books.shown⟩

/-- A span that goes through the filter is let through, held or thrown away. -/
theorem moves_screen (books : l.Books) (span : Span) :
    (l.screen span).2.Books ∧ l.host.MovesOnly Filter.instruments (l.screen span).2.host ∧
      ((l.screen span).1.length : Int) + (l.screen span).2.held +
        Filter.thrownAway (l.screen span).2.host = l.held + Filter.thrownAway l.host + 1 := by
  obtain ⟨_, _, _, filter, _, _, _, _⟩ := l
  cases filter with
  | none =>
    refine ⟨books, .of_tally rfl, ?_⟩
    simp only [screen, held, List.length_singleton]
    omega
  | some f => exact Filter.moves_pass books span

theorem moves_clear (books : l.Books) :
    l.clear.Books ∧ l.host.MovesOnly Filter.instruments l.clear.host ∧ l.clear.held = 0 ∧
      Filter.thrownAway l.clear.host = Filter.thrownAway l.host + l.held := by
  obtain ⟨_, _, _, filter, _, _, _, _⟩ := l
  cases filter with
  | none => exact ⟨books, .of_tally rfl, rfl, (Int.add_zero _).symm⟩
  | some f =>
    obtain ⟨empty, shows, only, thrown⟩ := Filter.moves_clear books
    exact ⟨shows, only, congrArg List.length empty, thrown⟩

private theorem movesOnly_goOn (call : Nat) : l.host.MovesOnly [.reporterDropped]
    (l.goOn call).host := by
  unfold goOn
  split
  · exact .of_tally rfl
  · refine .of_tally ?_
    simp only [tell, inside, host]
    split <;> rfl
  · exact Delivery.movesOnly_step l.delivery (.report _)

private theorem movesOnly_poll : l.host.MovesOnly RemoteSampler.instruments l.poll.host := by
  unfold poll
  split
  · exact .of_tally rfl
  · exact RemoteSampler.movesOnly_poll _ _ _

private theorem movesOnly_close (books : l.Books) :
    l.host.MovesOnly (Act.close).instruments l.close.host := by
  unfold close
  split
  · have only : l.host.MovesOnly [] (l.host.log (.pipelineClosing l.service)) := .of_tally rfl
    obtain ⟨_, only, _⟩ := moves_clear (books.inside only List.not_mem_nil)
    exact only.mono (by decide)
  · split
    · exact .of_tally (Sampler.tally_close _ _ _)
    · have moved := Delivery.movesOnly_step l.delivery .close
      refine moved.mono ?_
      unfold Delivery.moved
      dsimp only
      split <;> decide
  · exact .of_tally rfl

private theorem movesOnly_step (books : l.Books) (a : Act) :
    l.host.MovesOnly a.instruments (l.step a).host := by
  cases a with
  | sample operation traceId => exact Pipeline.movesOnly_sample l.pipeline l.host operation traceId
  | report span =>
    simp only [step, report]
    split
    · exact (moves_screen books span).2.1
    · exact .of_tally rfl
  | goOn call => exact movesOnly_goOn call
  | flush => exact Delivery.movesOnly_step l.delivery .flush
  | take => exact Delivery.movesOnly_step l.delivery .take
  | proceed => exact Delivery.movesOnly_step l.delivery .proceed
  | close => exact movesOnly_close books
  | poll => exact movesOnly_poll
  | clock | network => exact .of_tally rfl

/-- What is known of the spans after every act. -/
structure Kept (l : Line) (size : Number) (reported : Nat) : Prop where
  wellFormed : l.delivery.WellFormed size true
  accounted : l.delivery.view.Accounted [] 0
  books : l.Books
  spans : (reported : Int) =
    Filter.thrownAway l.host + l.held + l.inHand + l.delivery.reported
  begun : l.shutdown = .notBegun → l.delivery.closing = .notBegun
  emptied : l.shutdown ≠ .notBegun → l.held = 0
  finished : l.shutdown = .returned → l.delivery.closing = .returned
  shown : l.delivery.closing = .returned → l.host.tally.get .reporterQueueLength = 0

variable {size : Number} {reported : Nat}

private theorem view_inside {moved : List Instrument} {h : Host} (only : l.host.MovesOnly moved h)
    (apart : ∀ i ∈ [Instrument.reporterSuccess, .reporterFailure, .reporterDropped], i ∉ moved) :
    (l.inside h).delivery.view = l.delivery.view := by
  have success := only .reporterSuccess (apart _ (by decide))
  have failure := only .reporterFailure (apart _ (by decide))
  have dropped := only .reporterDropped (apart _ (by decide))
  simp only [host] at success failure dropped
  simp only [inside, Delivery.view, Delivery.settledIn, success, failure, dropped]

private theorem wellFormed_inside (wellFormed : l.delivery.WellFormed size true) (h : Host) :
    (l.inside h).delivery.WellFormed size true :=
  ⟨wellFormed.plain, wellFormed.metered_eq, wellFormed.closed_iff, wellFormed.nonempty⟩

private theorem Kept.inside {moved : List Instrument} {h : Host} (kept : l.Kept size reported)
    (only : l.host.MovesOnly moved h) (apart : ∀ i ∈ accountInstruments, i ∉ moved)
    (sampler : Sampler) : ({ l.inside h with sampler } : Line).Kept size reported := by
  have same (i : Instrument) (m : i ∈ accountInstruments) : h.tally.get i = l.host.tally.get i :=
    only i (apart i m)
  have view := view_inside only fun i m => apart i (List.mem_append_left _ m)
  have thrown : Filter.thrownAway h = Filter.thrownAway l.host := by
    unfold Filter.thrownAway
    rw [same .filteredSpans (by decide), same .deferredDropped (by decide)]
  exact {
    wellFormed := wellFormed_inside kept.wellFormed h
    accounted := view.symm ▸ kept.accounted
    books := kept.books.inside only (apart .deferredPending (by decide))
    spans := by
      rw [kept.spans, ← thrown]
      rfl
    begun := kept.begun
    emptied := kept.emptied
    finished := kept.finished
    shown := fun returned => (same .reporterQueueLength (by decide)).trans (kept.shown returned) }

private theorem Kept.quiet {h : Host} (kept : l.Kept size reported) (same : h.tally = l.host.tally)
    (sampler : Sampler) : ({ l.inside h with sampler } : Line).Kept size reported := by
  have only : l.host.MovesOnly [] h := .of_tally same
  exact kept.inside only (by decide) sampler

private theorem Kept.refilter (kept : l.Kept size reported) (fresh : l.shutdown = .notBegun)
    {e : Line}
    (delivery : e.delivery = (l.inside e.host).delivery)
    (only : l.host.MovesOnly Filter.instruments e.host) (books : e.Books) {total : Nat}
    (spans : (total : Int) =
      Filter.thrownAway e.host + e.held + e.inHand + l.delivery.reported)
    (stage : e.shutdown = .notBegun ∨ e.shutdown = .underway ∧ e.held = 0) :
    e.Kept size total := by
  have view : e.delivery.view = l.delivery.view :=
    (congrArg Delivery.view delivery).trans (view_inside only (by decide))
  have closing : e.delivery.closing = .notBegun :=
    (congrArg Delivery.closing delivery).trans (kept.begun fresh)
  exact {
    wellFormed := delivery ▸ wellFormed_inside kept.wellFormed e.host
    accounted := view.symm ▸ kept.accounted
    books
    spans := spans.trans (by rw [delivery]; rfl)
    begun := fun _ => closing
    emptied := fun begun => (stage.resolve_left begun).2
    finished := fun returned => by
      rcases stage with notBegun | ⟨underway, _⟩
      · cases notBegun.symm.trans returned
      · cases underway.symm.trans returned
    shown := fun returned => by cases closing.symm.trans returned }

private theorem Kept.recall (kept : l.Kept size reported) {calls : List Reporting} {total : Nat}
    (same : total + l.inHand = reported + ({ l with calls } : Line).inHand) :
    ({ l with calls } : Line).Kept size total := by
  refine { kept with spans := ?_ }
  have spans := kept.spans
  change (_ : Int) = Filter.thrownAway l.host + l.held + ({ l with calls } : Line).inHand +
    l.delivery.reported
  omega

theorem not_mem_moved (d : Delivery) (move : Move) {i : Instrument}
    (m : i ∈ [Instrument.filteredSpans, .deferredDropped, .deferredPending]) :
    i ∉ d.moved move := by
  have apart : ∀ i ∈ [Instrument.filteredSpans, .deferredDropped, .deferredPending],
      i ∉ [Instrument.reporterDropped] ∧ i ∉ [Instrument.reporterQueueLength] ∧
        i ∉ RemoteReporter.workerInstruments ∧ i ∉ RemoteReporter.closingInstruments := by decide
  obtain ⟨dropped, length, worker, closing⟩ := apart i m
  cases move with
  | report => exact dropped
  | flush => exact length
  | take => exact List.not_mem_nil
  | proceed => exact worker
  | close =>
    unfold Delivery.moved
    dsimp only
    split
    · exact closing
    · exact dropped

theorem closing_step (d : Delivery) {move : Move} (other : move ≠ .close) :
    (d.step move).closing = d.closing := by
  cases move with
  | report | flush | take | proceed => rfl
  | close => exact absurd rfl other

private theorem Kept.shown_of_releasing (kept : l.Kept size reported) {batch : List Span}
    (releasing : l.delivery.closing = .releasing batch) :
    (l.delivery.step .close).host.tally.get .reporterQueueLength = 0 := by
  have unscripted : l.delivery.reporter.sender.outcomes = [] := by
    have tracks := kept.accounted.tracks
    simpa [Delivery.View.Tracks, Delivery.view] using tracks
  have quiet := RemoteReporter.finishRelease_of_plain l.delivery.reporter l.delivery.host
    kept.wellFormed.plain unscripted batch
  have shows :=
    (RemoteReporter.moves_finishRelease l.delivery.reporter l.delivery.host batch).2
  simp only [Delivery.step, Delivery.closeStep, releasing]
  exact shows quiet kept.wellFormed.metered_eq

private theorem releasing_of_returned {d : Delivery}
    (returned : (d.step .close).closing = .returned) :
    (∃ batch, d.closing = .releasing batch) ∨ d.closing = .returned := by
  cases closing : d.closing with
  | releasing batch => exact .inl ⟨batch, rfl⟩
  | returned => exact .inr rfl
  | notBegun | late | resigning | waking | leaving =>
    simp only [Delivery.step, Delivery.closeStep, closing] at returned
    cases returned
  | entering | waiting =>
    simp only [Delivery.step, Delivery.closeStep, closing] at returned
    split at returned <;> cases returned
  | draining given thrown =>
    simp only [Delivery.step, Delivery.closeStep, closing, Delivery.drainStep] at returned
    split at returned
    · cases returned
    · cases given <;> cases returned

def Allows (l : Line) : Move → Prop
  | .close => l.shutdown = .underway
  | .flush => l.delivery.closing = .notBegun
  | .report _ | .take | .proceed => True

private theorem Kept.shown_step (kept : l.Kept size reported) {move : Move}
    (allowed : l.Allows move)
    (returned : (l.delivery.step move).closing = .returned) :
    (l.delivery.step move).host.tally.get .reporterQueueLength = 0 := by
  have still (before : l.delivery.closing = .returned)
      (apart : Instrument.reporterQueueLength ∉ l.delivery.moved move) :
      (l.delivery.step move).host.tally.get .reporterQueueLength = 0 :=
    (Delivery.movesOnly_step l.delivery move _ apart).trans (kept.shown before)
  cases move with
  | report | take | proceed =>
    exact still returned (by simp [Delivery.moved, RemoteReporter.workerInstruments])
  | flush =>
    have begun : l.delivery.closing = .notBegun := allowed
    cases begun.symm.trans returned
  | close =>
    rcases releasing_of_returned returned with ⟨batch, closing⟩ | closing
    · exact kept.shown_of_releasing closing
    · exact still closing (by simp [Delivery.moved, closing])

private theorem Kept.deliver (kept : l.Kept size reported) (move : Move) (allowed : l.Allows move) :
    (l.deliver move).Kept size (reported + if move.isReport then 1 else 0) := by
  obtain ⟨transition, wellFormed⟩ := Delivery.transition_step kept.wellFormed move
  have only := Delivery.movesOnly_step l.delivery move
  have apart {i : Instrument}
      (m : i ∈ [Instrument.filteredSpans, .deferredDropped, .deferredPending]) :
      (l.delivery.step move).host.tally.get i = l.host.tally.get i :=
    only i (not_mem_moved l.delivery move m)
  have thrown : Filter.thrownAway (l.delivery.step move).host = Filter.thrownAway l.host := by
    unfold Filter.thrownAway
    rw [apart (by decide), apart (by decide)]
  have other {stage : Shutdown} (at_ : l.shutdown = stage) (differs : stage ≠ .underway) :
      (l.delivery.step move).closing = l.delivery.closing := by
    refine closing_step _ ?_
    rintro rfl
    exact differs (at_.symm.trans allowed)
  exact {
    wellFormed
    accounted := kept.accounted.step transition
    books := kept.books.inside only (not_mem_moved l.delivery move (by decide))
    spans := by
      have spans := kept.spans
      have count := Delivery.reported_step l.delivery move
      change (_ : Int) = Filter.thrownAway (l.delivery.step move).host + l.held + l.inHand +
        (l.delivery.step move).reported
      rw [thrown, count]
      push_cast
      omega
    begun := fun notBegun => (other notBegun (by decide)).trans (kept.begun notBegun)
    emptied := kept.emptied
    finished := fun returned => (other returned (by decide)).trans (kept.finished returned)
    shown := kept.shown_step allowed }

private theorem inHand_set {calls : List Reporting} {n : Nat} {call : Reporting}
    (at_ : calls[n]? = some call) (next : Reporting) :
    ((calls.set n next).map (·.left.length)).sum + call.left.length =
      (calls.map (·.left.length)).sum + next.left.length := by
  induction calls generalizing n with
  | nil => cases at_
  | cons first rest ih =>
    cases n with
    | zero =>
      cases at_
      simp only [List.set_cons_zero, List.map_cons, List.sum_cons]
      omega
    | succ n =>
      have rest_eq := ih (n := n) at_
      simp only [List.set_cons_succ, List.map_cons, List.sum_cons]
      omega

private theorem inHand_eraseIdx {calls : List Reporting} {n : Nat} {call : Reporting}
    (at_ : calls[n]? = some call) :
    ((calls.eraseIdx n).map (·.left.length)).sum + call.left.length =
      (calls.map (·.left.length)).sum := by
  induction calls generalizing n with
  | nil => cases at_
  | cons first rest ih =>
    cases n with
    | zero =>
      cases at_
      simp only [List.eraseIdx_cons_zero, List.map_cons, List.sum_cons]
      omega
    | succ n =>
      have rest_eq := ih (n := n) at_
      simp only [List.eraseIdx_cons_succ, List.map_cons, List.sum_cons]
      omega

private theorem Kept.report (kept : l.Kept size reported) (fresh : l.shutdown = .notBegun)
    (span : Span) :
    (l.report span).Kept size (reported + if span.isSampled then 1 else 0) := by
  unfold Line.report
  split
  case isFalse => exact kept
  case isTrue =>
    obtain ⟨books, only, total⟩ := moves_screen kept.books span
    obtain ⟨filter, h, screened⟩ := screen_eq l span
    let call : Reporting := { span, left := (l.screen span).1 }
    let e : Line := { (l.screen span).2 with calls := (l.screen span).2.calls ++ [call] }
    change e.Kept size (reported + 1)
    refine kept.refilter (e := e) fresh ?_ only books ?_ (.inl ?_)
    · simp only [e, screened]
      rfl
    · have spans := kept.spans
      have hands : e.inHand = l.inHand + (l.screen span).1.length := by
        have still : (l.screen span).2.calls = l.calls := by
          rw [screened]
          rfl
        simp [e, inHand, still, call]
      have kept_held : e.held = (l.screen span).2.held := rfl
      have kept_thrown : Filter.thrownAway e.host = Filter.thrownAway (l.screen span).2.host := rfl
      rw [hands, kept_held, kept_thrown]
      push_cast
      omega
    · simp only [e, screened]
      exact fresh

private theorem Kept.goOn (kept : l.Kept size reported) (call : Nat) :
    (l.goOn call).Kept size reported := by
  unfold Line.goOn
  split
  case h_1 => exact kept
  case h_2 span at_ =>
    have told : (l.tell span).Kept size reported := by
      have told : (if l.logs then l.host.log (Reporter.spanNotice span) else l.host).tally =
          l.host.tally := by
        split <;> rfl
      exact kept.quiet told l.sampler
    refine told.recall ?_
    have erased := inHand_eraseIdx at_
    change reported + l.inHand = reported + ((l.calls.eraseIdx call).map (·.left.length)).sum
    rw [inHand, ← erased]
    rfl
  case h_3 span next left at_ =>
    -- one span less in hand, one more that the delivery was given
    have delivered := kept.deliver (.report next) trivial
    refine delivered.recall ?_
    have changed := inHand_set at_ { span, left }
    change reported + l.inHand =
      reported + 1 + ((l.calls.set call { span, left }).map (·.left.length)).sum
    simp only [List.length_cons] at changed
    simp only [inHand]
    omega

private theorem Kept.close (kept : l.Kept size reported) : l.close.Kept size reported := by
  unfold Line.close
  split
  case h_1 fresh =>
    -- what the filter held is thrown away, and nothing is reported that could be held again
    let logged := l.inside (l.host.log (.pipelineClosing l.service))
    have only : l.host.MovesOnly [] logged.host := .of_tally rfl
    have books : logged.Books := kept.books.inside only List.not_mem_nil
    obtain ⟨cleared, only, empty, thrown⟩ := moves_clear books
    obtain ⟨filter, h, same⟩ := clear_eq logged
    let e : Line := { logged.clear with shutdown := .underway }
    change e.Kept size reported
    refine kept.refilter (e := e) fresh ?_ only cleared ?_ (.inr ⟨rfl, empty⟩)
    · simp only [e, same]
      rfl
    · have spans := kept.spans
      have hands : e.inHand = l.inHand := by
        simp only [e, inHand, same]
        rfl
      have none : e.held = 0 := empty
      have all : Filter.thrownAway e.host = Filter.thrownAway l.host + l.held := thrown
      rw [hands, none, all]
      push_cast
      omega
  case h_2 underway =>
    split
    case h_1 returned =>
      have closed := kept.quiet (Sampler.tally_close {} l.host l.sampler)
        (l.sampler.close {} l.host).2.1
      have empty := kept.emptied (by simp [underway])
      exact { closed with
        begun := fun notBegun => by cases notBegun
        emptied := fun _ => empty
        finished := fun _ => returned }
    case h_2 =>
      exact kept.deliver .close underway
  case h_3 => exact kept

/-- What one act does to the accounts, before the closing call begins or as long as nothing is
reported and no flush is asked for. -/
private theorem Kept.step (kept : l.Kept size reported) (a : Act)
    (timely : a.isLate = true ∨ l.shutdown = .notBegun) :
    (l.step a).Kept size (reported + if a.isReport then 1 else 0) := by
  cases a with
  | sample operation traceId =>
    exact kept.inside (Pipeline.movesOnly_sample l.pipeline l.host operation traceId) (by decide) _
  | report span => exact kept.report (timely.resolve_left (fun late => by cases late)) span
  | goOn call => exact kept.goOn call
  | flush =>
    have begun := kept.begun (timely.resolve_left (fun late => by cases late))
    exact kept.deliver .flush begun
  | take => exact kept.deliver .take trivial
  | proceed => exact kept.deliver .proceed trivial
  | close => exact kept.close
  | poll =>
    change l.poll.Kept size reported
    unfold poll
    split
    · exact kept
    · exact kept.inside (RemoteSampler.movesOnly_poll _ _ _) (by decide) _
  | clock now =>
    exact kept.quiet (h := { l.host with now }) rfl l.sampler
  | network network =>
    exact kept.quiet (h := { l.host with network }) rfl l.sampler

/-- A run may go on with some acts: the closing call has begun and they are late, or it has not and
it comes last. -/
def MayRun (l : Line) (acts : List Act) : Prop :=
  acts.all Act.isLate = true ∨ l.shutdown = .notBegun ∧ Act.closesLast acts = true

private theorem MayRun.cons {a : Act} {rest : List Act} (may : l.MayRun (a :: rest)) :
    (a.isLate = true ∨ l.shutdown = .notBegun) ∧ (l.step a).MayRun rest := by
  rcases may with late | ⟨fresh, last⟩
  · rw [List.all_cons, Bool.and_eq_true] at late
    exact ⟨.inl late.1, .inl late.2⟩
  · refine ⟨.inr fresh, ?_⟩
    by_cases close : a = .close
    · subst close
      exact .inl last
    · have still : Act.closesLast rest = true := by
        cases a with
        | close => exact absurd rfl close
        | _ => exact last
      exact .inr ⟨(shutdown_step l close).trans fresh, still⟩

theorem Kept.run (kept : l.Kept size reported) {acts : List Act} (may : l.MayRun acts) :
    (l.run acts).Kept size (reported + acts.countP Act.isReport) := by
  induction acts generalizing l reported with
  | nil => exact kept
  | cons a rest ih =>
    obtain ⟨timely, may⟩ := may.cons
    have went := ih (kept.step a timely) may
    rw [List.countP_cons, Nat.add_comm (rest.countP _), ← Nat.add_assoc]
    exact went

/-- How many answers are counted as sampled and as not sampled. -/
def Started (l : Line) (answers : List SamplingStatus) : Prop :=
  l.host.tally.get .startedSampled = answers.countP (·.sampled) ∧
    l.host.tally.get .startedNotSampled = answers.countP (!·.sampled)

private theorem Started.step {answers : List SamplingStatus} (started : l.Started answers)
    (books : l.Books) (a : Act) : (l.step a).Started (answers ++ (l.answer? a).toList) := by
  obtain ⟨sampled, unsampled⟩ := started
  have others (silent : l.answer? a = none)
      (apart : ∀ i ∈ Pipeline.sampleInstruments, i ∉ a.instruments) :
      (l.step a).Started (answers ++ (l.answer? a).toList) := by
    have only := movesOnly_step books a
    rw [silent, Option.toList_none, List.append_nil]
    exact ⟨(only _ (apart _ (by decide))).trans sampled,
      (only _ (apart _ (by decide))).trans unsampled⟩
  cases a with
  | sample operation traceId =>
    obtain ⟨yes, no⟩ := Pipeline.started_sample l.pipeline l.host operation traceId rfl
    constructor
    · rw [List.countP_append, Nat.cast_add, ← sampled]
      exact yes
    · rw [List.countP_append, Nat.cast_add, ← unsampled]
      exact no
  | report | goOn | flush | take | proceed | close | poll | clock | network =>
    exact others rfl (by simp only [Act.instruments]; decide)

theorem Started.run {answers : List SamplingStatus} (started : l.Started answers)
    (kept : l.Kept size reported) {acts : List Act} (may : l.MayRun acts) :
    (l.run acts).Started (answers ++ l.answers acts) := by
  induction acts generalizing l answers reported with
  | nil => simpa [Line.answers] using started
  | cons a rest ih =>
    obtain ⟨timely, may⟩ := may.cons
    have went := ih (started.step kept.books a) (kept.step a timely) may
    rw [List.append_assoc] at went
    exact went

/-- A span that no one has is in a counter, but for one that the closing call overtook. -/
theorem Kept.counted (kept : l.Kept size reported) (idle : l.calls = [])
    (returned : l.shutdown = .returned) (ended : l.delivery.reporter.worker = .ended) :
    ∃ strays ≤ 1, (reported : Int) =
      l.host.tally.get .reporterSuccess + l.host.tally.get .reporterFailure +
        l.host.tally.get .reporterDropped + l.host.tally.get .filteredSpans +
          l.host.tally.get .deferredDropped + (strays : Nat) ∧
      (l.delivery.overtaken = false → strays = 0) := by
  have honest : Delivery.CountsLosses [] l.delivery.answered :=
    fun _ _ _ _ _ next => by simp at next
  obtain ⟨strays, few, sum, none⟩ :=
    kept.accounted.ended honest (kept.finished returned) ended
  refine ⟨strays, few, ?_, none⟩
  -- nothing is held or in hand, so all that was reported went to the delivery or was thrown away
  have spans := kept.spans
  have held := kept.emptied (by simp [returned])
  have inHand : l.inHand = 0 := by simp [inHand, idle]
  simp only [held, inHand, Filter.thrownAway, host] at spans ⊢
  simp only [Delivery.view, Delivery.settledIn] at sum
  omega

end Line

end Tracing
