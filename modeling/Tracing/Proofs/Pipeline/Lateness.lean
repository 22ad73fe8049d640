import Tracing.Proofs.Delivery.Containment
import Tracing.Proofs.Filtering.Forwarding
import Tracing.Proofs.Pipeline.Accounts
/-!
What is reported too late. Once the closing call of a chain of reporters has returned, the delivery
drops and counts what reaches it, but the filter in front of it goes on as before: it still holds
back the spans that it defers, and these are in no counter.
-/

set_option autoImplicit false
set_option relaxedAutoImplicit false

namespace Tracing

open Metrics (Instrument)

namespace Delivery

/-- A delivery that counts, and takes no span any more as soon as it is being closed. -/
structure Refuses (d : Delivery) : Prop where
  metered : d.reporter.metered = true
  closed : d.closing ≠ .notBegun → d.reporter.closed = true

variable {d : Delivery}

private theorem refuses_event {s : Handling} (refuses : s.delivery.Refuses) (event : Event) :
    (s.step event).delivery.Refuses := by
  refine ⟨(s.metered_step event).trans refuses.metered, ?_⟩
  cases event with
  | report span =>
    obtain ⟨queue, same⟩ := s.reporter_report span
    rw [same]
    exact refuses.closed
  | flush =>
    obtain ⟨queue, same⟩ := s.reporter_flush
    rw [same]
    exact refuses.closed
  | work p =>
    have worked := RemoteReporter.worked_workWith s.delivery.reporter p s.delivery.host
    have still : (s.delivery.reporter.workWith p s.delivery.host).1.closed =
        s.delivery.reporter.closed := by
      generalize (s.delivery.reporter.workWith p s.delivery.host).1 = r at worked ⊢
      cases worked <;> rfl
    exact fun begun => still.trans (refuses.closed begun)
  | close p =>
    have closes : s.Closes p (s.step (.close p)) := Handling.closes_closeStep s p
    generalize s.step (.close p) = s' at closes ⊢
    cases closes with
    | still => exact refuses.closed
    | enter => exact fun _ => rfl
    | pass begun => exact fun _ => refuses.closed begun
    | request closing | finish closing | resign closing | throw closing | book closing
    | wake closing | part closing | leave closing =>
      exact fun _ => refuses.closed (by simp [closing])

private theorem Refuses.step (refuses : d.Refuses) (move : Move) : (d.step move).Refuses := by
  obtain ⟨events, ran⟩ := Handling.exists_run_step { delivery := d } move
  have start : ({ delivery := d } : Handling).delivery.Refuses := refuses
  rw [← ran]
  exact List.foldlRecOn (motive := fun s => s.delivery.Refuses) events Handling.step start
    fun _ kept event _ => refuses_event kept event

private theorem run_reports (refuses : d.Refuses) (begun : d.closing ≠ .notBegun)
    (spans : List Span) :
    (d.run (spans.map .report)).reporter = d.reporter ∧
      (d.run (spans.map .report)).closing = d.closing ∧
      d.host.MovesOnly [.reporterDropped] (d.run (spans.map .report)).host ∧
      (d.run (spans.map .report)).host.tally.get .reporterDropped =
        d.host.tally.get .reporterDropped + spans.length := by
  induction spans generalizing d with
  | nil => exact ⟨rfl, rfl, .of_tally rfl, (Int.add_zero _).symm⟩
  | cons span rest ih =>
    have refused : d.reporter.offer span d.host =
        (d.reporter, d.host.count true .reporterDropped 1) := by
      simp [RemoteReporter.offer, RemoteReporter.refuses, refuses.closed begun, refuses.metered]
    have reporter : (d.step (.report span)).reporter = d.reporter := congrArg Prod.fst refused
    have host : (d.step (.report span)).host = d.host.count true .reporterDropped 1 :=
      congrArg Prod.snd refused
    obtain ⟨same, stage, only, dropped⟩ := ih (refuses.step (.report span)) begun
    have counted : d.host.MovesOnly [.reporterDropped] (d.step (.report span)).host :=
      host ▸ Host.movesOnly_count (by decide) true 1
    refine ⟨same.trans reporter, stage, counted.trans only, dropped.trans ?_⟩
    rw [host, List.length_cons]
    simp
    omega

end Delivery

namespace Filter

variable {f : Filter} {s : Span}

private theorem pass_of_free (empty : f.pending = []) (free : f.defers s = false) (h : Host) :
    f.pass s h = ([s], f, h) ∨ f.pass s h = ([], f, h.count f.metered .filteredSpans 1) := by
  have none : f.waitingFor s.spanId = [] := by simp [waitingFor, empty]
  have same : f.without s.spanId = f := by
    unfold without
    rw [empty]
    exact congrArg (fun pending => { f with pending }) empty.symm
  unfold pass
  rw [none, same]
  dsimp only
  split
  case isTrue => exact .inr rfl
  case isFalse long =>
    split
    case isTrue short =>
      have root : s.isRoot = true := by simpa [defers, long, short] using free
      rw [if_pos root]
      exact .inr rfl
    case isFalse => exact .inl rfl

end Filter

namespace Line

private theorem performAll_append (l : Line) (before after : List Deed) :
    l.performAll (before ++ after) = (l.performAll before).performAll after :=
  List.foldl_append ..

/-- Whether a span would be held back. -/
def defers (l : Line) (span : Span) : Bool := l.filter.any (·.defers span)

/-- The number of held spans as the filter keeps it. -/
def pendingCount (l : Line) : Int := (l.filter.map Filter.pendingCount).getD 0

/-- The books are in order, and the delivery refuses once it is being closed, which is after the
closing call has begun. -/
structure Ready (l : Line) : Prop where
  refuses : l.delivery.Refuses
  books : l.Books
  begun : l.shutdown = .notBegun → l.delivery.closing = .notBegun

variable {l : Line} {span : Span}

private theorem Books.pendingCount (books : l.Books) : l.pendingCount = l.held := by
  obtain ⟨_, _, _, filter, _, _, _, _⟩ := l
  cases filter with
  | none => rfl
  | some f => exact books.booked.trans (Int.add_zero _)

section Step

private theorem Ready.inside {moved : List Instrument} {h : Host} (ready : l.Ready)
    (only : l.host.MovesOnly moved h) (apart : .deferredPending ∉ moved) (sampler : Sampler) :
    ({ l.inside h with sampler } : Line).Ready :=
  ⟨⟨ready.refuses.metered, ready.refuses.closed⟩, ready.books.inside only apart, ready.begun⟩

private theorem Ready.quiet {h : Host} (ready : l.Ready) (same : h.tally = l.host.tally)
    (sampler : Sampler) : ({ l.inside h with sampler } : Line).Ready := by
  have only : l.host.MovesOnly [] h := .of_tally same
  exact ready.inside only List.not_mem_nil sampler

private theorem Ready.recall (ready : l.Ready) (calls : List Reporting) :
    ({ l with calls } : Line).Ready :=
  ⟨ready.refuses, ready.books, ready.begun⟩

private theorem Ready.deliver (ready : l.Ready) (move : Move)
    (begun : move = .close → l.shutdown ≠ .notBegun) : (l.deliver move).Ready := by
  have only := Delivery.movesOnly_step l.delivery move
  refine ⟨ready.refuses.step move,
    ready.books.inside only (not_mem_moved l.delivery move (by decide)), fun fresh => ?_⟩
  exact (closing_step l.delivery fun close => begun close fresh).trans (ready.begun fresh)

private theorem Ready.screen (ready : l.Ready) (span : Span) : (l.screen span).2.Ready := by
  obtain ⟨books, -, -⟩ := moves_screen ready.books span
  obtain ⟨filter, host, screened⟩ := screen_eq l span
  rw [screened] at books ⊢
  exact ⟨⟨ready.refuses.metered, ready.refuses.closed⟩, books, ready.begun⟩

private theorem Ready.tell (ready : l.Ready) (span : Span) : (l.tell span).Ready := by
  have told : (if l.logs then l.host.log (Reporter.spanNotice span) else l.host).tally =
      l.host.tally := by
    split <;> rfl
  exact ready.quiet told l.sampler

private theorem Ready.handOver (ready : l.Ready) (spans : List Span) :
    (l.handOver spans).Ready := by
  induction spans generalizing l with
  | nil => exact ready
  | cons span rest ih => exact ih (ready.deliver (.report span) fun close => by cases close)

private theorem Ready.enter (ready : l.Ready) (span : Span) : (l.enter span).Ready :=
  (ready.screen span).recall _

private theorem Ready.passed (ready : l.Ready) (span : Span) : (l.passed span).Ready :=
  ((ready.screen span).handOver _).tell span

private theorem Ready.goOn (ready : l.Ready) (call : Nat) : (l.goOn call).Ready := by
  unfold Line.goOn
  split
  case h_1 => exact ready
  case h_2 span _ => exact (ready.tell span).recall _
  case h_3 next _ _ => exact (ready.deliver (.report next) fun close => by cases close).recall _

private theorem Ready.close (ready : l.Ready) : l.close.Ready := by
  unfold Line.close
  split
  case h_1 fresh =>
    let logged := l.inside (l.host.log (.pipelineClosing l.service))
    have only : l.host.MovesOnly [] logged.host := .of_tally rfl
    have books : logged.Books := ready.books.inside only List.not_mem_nil
    obtain ⟨cleared, -, -, -⟩ := moves_clear books
    obtain ⟨filter, host, same⟩ := clear_eq logged
    change ({ logged.clear with shutdown := .underway } : Line).Ready
    rw [same] at cleared ⊢
    exact ⟨⟨ready.refuses.metered, ready.refuses.closed⟩, cleared, fun fresh => by cases fresh⟩
  case h_2 underway =>
    split
    case h_1 =>
      have closed := ready.quiet (Sampler.tally_close {} l.host l.sampler)
        (l.sampler.close {} l.host).2.1
      exact ⟨closed.refuses, closed.books, fun fresh => by cases fresh⟩
    case h_2 => exact ready.deliver .close fun _ => by simp [underway]
  case h_3 => exact ready

private theorem Ready.step (ready : l.Ready) (a : Act) : (l.step a).Ready := by
  cases a with
  | sample operation traceId =>
    exact ready.inside (Pipeline.movesOnly_sample l.pipeline l.host operation traceId) (by decide) _
  | report span =>
    simp only [Line.step, Line.report]
    split
    · exact ready.enter span
    · exact ready
  | goOn call => exact ready.goOn call
  | flush => exact ready.deliver .flush fun close => by cases close
  | take => exact ready.deliver .take fun close => by cases close
  | proceed => exact ready.deliver .proceed fun close => by cases close
  | close => exact ready.close
  | poll =>
    change l.poll.Ready
    unfold poll
    split
    · exact ready
    · exact ready.inside (RemoteSampler.movesOnly_poll _ _ _) (by decide) _
  | clock now => exact ready.quiet (h := { l.host with now }) rfl l.sampler
  | network network => exact ready.quiet (h := { l.host with network }) rfl l.sampler

private theorem Ready.perform (ready : l.Ready) (deed : Deed) : (l.perform deed).Ready := by
  cases deed with
  | act a => exact ready.step a
  | enter span => exact ready.enter span
  | report span => exact ready.passed span

private theorem Ready.performAll (ready : l.Ready) (deeds : List Deed) :
    (l.performAll deeds).Ready :=
  List.foldlRecOn (motive := Ready) deeds Line.perform ready fun _ kept deed _ => kept.perform deed

end Step

section Filters

private theorem defers_screen (l : Line) (span : Span) : (l.screen span).2.defers = l.defers := by
  obtain ⟨_, _, _, filter, _, d, _, _⟩ := l
  cases filter with
  | none => rfl
  | some f =>
    obtain ⟨drop, defer⟩ := Filter.Alike.pass (f := f) ⟨rfl, rfl⟩ span d.host
    funext other
    change (f.pass span d.host).2.1.defers other = f.defers other
    simp only [Filter.defers, drop, defer]

private theorem defers_clear (l : Line) : l.clear.defers = l.defers := by
  obtain ⟨_, _, _, filter, _, _, _, _⟩ := l
  cases filter <;> rfl

private theorem filter_step {a : Act} (other : ∀ span, a ≠ .report span)
    (begun : a = .close → l.shutdown ≠ .notBegun) : (l.step a).filter = l.filter := by
  cases a with
  | sample | flush | take | proceed | clock | network => rfl
  | report span => exact absurd rfl (other span)
  | goOn call =>
    simp only [step, goOn]
    split <;> rfl
  | close =>
    simp only [step, close]
    split
    case h_1 fresh => exact absurd fresh (begun rfl)
    case h_2 => split <;> rfl
    case h_3 => rfl
  | poll =>
    simp only [step, poll]
    split <;> rfl

private theorem defers_step (l : Line) (a : Act) : (l.step a).defers = l.defers := by
  have still (same : (l.step a).filter = l.filter) : (l.step a).defers = l.defers := by
    unfold defers
    rw [same]
  cases a with
  | report span =>
    simp only [step, report]
    split
    · exact defers_screen l span
    · rfl
  | close =>
    by_cases fresh : l.shutdown = .notBegun
    · simp only [step, close, fresh]
      exact defers_clear (l.inside (l.host.log (.pipelineClosing l.service)))
    · exact still (filter_step (fun _ same => by cases same) fun _ => fresh)
  | _ => exact still (filter_step (fun _ same => by cases same) fun same => by cases same)

private theorem defers_perform (l : Line) (deed : Deed) : (l.perform deed).defers = l.defers := by
  cases deed with
  | act a => exact defers_step l a
  | enter span | report span => exact defers_screen l span

private theorem defers_performAll (l : Line) (deeds : List Deed) :
    (l.performAll deeds).defers = l.defers :=
  List.foldlRecOn (motive := fun l' => l'.defers = l.defers) deeds perform rfl
    fun l' kept deed _ => (defers_perform l' deed).trans kept

end Filters

section Late

/-- What a call does that reports a span after the closing. -/
structure Discards (l : Line) (span : Span) : Prop where
  /-- The call is that of the chain of reporters. -/
  own : l.reporter.offer span l.host = ((l.passed span).reporter, (l.passed span).host)
  /-- Queue, worker and sender are left alone. -/
  kept : (l.passed span).delivery.reporter = l.delivery.reporter
  /-- The span is dropped or thrown away, and counted, or it is held. -/
  found : (l.passed span).host.tally.get .reporterDropped +
      Filter.thrownAway (l.passed span).host + (l.passed span).held =
    l.host.tally.get .reporterDropped + Filter.thrownAway l.host + l.held + 1

/-- A call that reports a span raises one of two counters by one and leaves nothing pending. -/
structure Loses (l : Line) (span : Span) : Prop where
  counted :
    (l.passed span).host.tally.get .reporterDropped =
          l.host.tally.get .reporterDropped + 1 ∧
        (l.passed span).host.tally.get .filteredSpans = l.host.tally.get .filteredSpans ∨
      (l.passed span).host.tally.get .reporterDropped = l.host.tally.get .reporterDropped ∧
        (l.passed span).host.tally.get .filteredSpans = l.host.tally.get .filteredSpans + 1
  shown : (l.passed span).host.tally.get .deferredPending = 0
  empty : (l.passed span).pendingCount = 0

/-- Each span that is reported by a whole call is lost in one counter. -/
def LosesAll (l : Line) : List Deed → Prop
  | [] => True
  | deed :: rest =>
    (∀ span, deed = .report span → l.Loses span) ∧ (l.perform deed).LosesAll rest

private theorem passed_of_begun (ready : l.Ready) (begun : l.delivery.closing ≠ .notBegun)
    (span : Span) :
    (l.passed span).delivery.reporter = l.delivery.reporter ∧
      (l.passed span).delivery.closing = l.delivery.closing ∧
      (l.screen span).2.host.MovesOnly [.reporterDropped] (l.passed span).host ∧
      (l.passed span).host.tally.get .reporterDropped =
        l.host.tally.get .reporterDropped + (l.screen span).1.length := by
  obtain ⟨-, only, -⟩ := moves_screen ready.books span
  obtain ⟨filter, host, screened⟩ := screen_eq l span
  have refuses := (ready.screen span).refuses
  have still : (l.screen span).2.delivery.reporter = l.delivery.reporter ∧
      (l.screen span).2.delivery.closing = l.delivery.closing := by
    rw [screened]
    exact ⟨rfl, rfl⟩
  obtain ⟨same, stage, moved, dropped⟩ :=
    Delivery.run_reports refuses (still.2 ▸ begun) (l.screen span).1
  -- the call logs its span last, which counts nothing
  have told : (l.passed span).host.tally =
      (((l.screen span).2.handOver (l.screen span).1).host).tally := by
    simp only [passed, tell, Line.inside, Line.host]
    split <;> rfl
  refine ⟨same.trans still.1, stage.trans still.2, moved.trans (.of_tally told), ?_⟩
  rw [told]
  exact dropped.trans (by rw [← only .reporterDropped (by decide)]; rfl)

private theorem discards_of_begun (ready : l.Ready) (begun : l.delivery.closing ≠ .notBegun)
    (span : Span) : l.Discards span := by
  obtain ⟨same, -, moved, dropped⟩ := passed_of_begun ready begun span
  obtain ⟨-, -, total⟩ := moves_screen ready.books span
  refine ⟨offer_reporter l span, same, ?_⟩
  have thrown : Filter.thrownAway (l.passed span).host =
      Filter.thrownAway (l.screen span).2.host := by
    unfold Filter.thrownAway
    rw [moved .filteredSpans (by decide), moved .deferredDropped (by decide)]
  have held : (l.passed span).held = (l.screen span).2.held := rfl
  rw [dropped, thrown, held]
  omega

private theorem screen_of_free (empty : l.held = 0) (free : l.defers span = false)
    (books : l.Books) :
    (l.screen span).2.held = 0 ∧
      ((l.screen span).1.length = 1 ∧ (l.screen span).2.host.tally.get .filteredSpans =
          l.host.tally.get .filteredSpans ∨
        (l.screen span).1.length = 0 ∧ (l.screen span).2.host.tally.get .filteredSpans =
          l.host.tally.get .filteredSpans + 1) := by
  obtain ⟨_, _, _, filter, _, d, _, _⟩ := l
  cases filter with
  | none => exact ⟨rfl, .inl ⟨rfl, rfl⟩⟩
  | some f =>
    have none : f.pending = [] := List.eq_nil_of_length_eq_zero empty
    rcases Filter.pass_of_free none free d.host with through | thrown
    · simp only [screen, host, through]
      exact ⟨empty, .inl ⟨rfl, rfl⟩⟩
    · simp only [screen, host, thrown, inside]
      exact ⟨empty, .inr ⟨rfl, by simp [books.metered]⟩⟩

private theorem screen_of_deferred (waits : l.defers span = true) : 0 < (l.screen span).2.held := by
  obtain ⟨_, _, _, filter, _, d, _, _⟩ := l
  cases filter with
  | none => cases waits
  | some f =>
    have same : f.waits span = true := waits
    have pending : (f.pass span d.host).2.1.pending = (f.without span.spanId).pending ++
        (f.waitingFor span.spanId ++ [span]).map (fun s => (span.parentId, s)) :=
      (Filter.pass_of_waits same).2.1
    change 0 < (f.pass span d.host).2.1.pending.length
    rw [pending]
    simp

private theorem returned_step (returned : l.delivery.closing = .returned) (a : Act) :
    (l.step a).delivery.closing = .returned := by
  rcases l.delivery_step a with ⟨host, same⟩ | ⟨move, moved, -⟩
  · rw [same]
    exact returned
  · rw [moved]
    exact returned_of_run returned [move]

/-- A chain whose closing call has returned and whose filter holds nothing, and what it would hold
back. -/
structure Shut (l : Line) (deferred : Span → Bool) : Prop where
  ready : l.Ready
  returned : l.delivery.closing = .returned
  empty : l.held = 0
  defers : l.defers = deferred

variable {deferred : Span → Bool}

private theorem Shut.begun (shut : l.Shut deferred) : l.delivery.closing ≠ .notBegun := by
  simp [shut.returned]

private theorem Shut.passed (shut : l.Shut deferred) (free : deferred span = false) :
    l.Loses span ∧ (l.passed span).Shut deferred := by
  obtain ⟨same, stage, moved, dropped⟩ := passed_of_begun shut.ready shut.begun span
  have through : l.defers span = false := by rw [shut.defers, free]
  obtain ⟨empty, counted⟩ := screen_of_free shut.empty through shut.ready.books
  have books := (shut.ready.passed span).books
  have held : (l.passed span).held = 0 := empty
  have filtered := moved .filteredSpans (by decide)
  refine ⟨⟨?_, ?_, ?_⟩, shut.ready.passed span, stage.trans shut.returned, held, ?_⟩
  · rw [dropped, filtered]
    rcases counted with ⟨one, same⟩ | ⟨none, more⟩
    · exact .inl ⟨by rw [one]; rfl, same⟩
    · exact .inr ⟨by rw [none]; exact Int.add_zero _, more⟩
  · rw [books.pending, held]
    rfl
  · rw [books.pendingCount, held]
    rfl
  · exact (defers_perform l (.report span)).trans shut.defers

private theorem Shut.not_loses (shut : l.Shut deferred) (waits : deferred span = true) :
    ¬ l.Loses span := by
  intro loses
  have deferring : l.defers span = true := by rw [shut.defers, waits]
  have held := screen_of_deferred deferring
  have shown := (shut.ready.passed span).books.pending
  have same : (l.passed span).held = (l.screen span).2.held := rfl
  rw [loses.shown, same] at shown
  omega

private theorem Shut.step (shut : l.Shut deferred) {a : Act} (other : ∀ span, a ≠ .report span) :
    (l.step a).Shut deferred := by
  have begun : l.shutdown ≠ .notBegun := fun fresh => shut.begun (shut.ready.begun fresh)
  have filter := filter_step other fun _ => begun
  refine ⟨shut.ready.step a, ?_, ?_, (defers_step l a).trans shut.defers⟩
  · exact returned_step shut.returned a
  · unfold held
    rw [filter]
    exact shut.empty

private theorem Shut.losesAll_iff (shut : l.Shut deferred) {late : List Deed}
    (whole : late.all Deed.isWhole = true) :
    l.LosesAll late ↔ ∀ span, .report span ∈ late → deferred span = false := by
  induction late generalizing l with
  | nil => simp [LosesAll]
  | cons deed rest ih =>
    rw [List.all_cons, Bool.and_eq_true] at whole
    obtain ⟨own, others⟩ := whole
    rw [LosesAll]
    have quiet (a : Act) (same : deed = .act a) (other : ∀ span, a ≠ .report span) :
        ((∀ span, deed = .report span → l.Loses span) ∧ (l.perform deed).LosesAll rest) ↔
          ∀ span, .report span ∈ deed :: rest → deferred span = false := by
      subst same
      have next := ih (shut.step other) others
      simp only [perform, next, List.mem_cons, reduceCtorEq, false_or, false_implies, implies_true,
        true_and]
    cases deed with
    | enter span => cases own
    | act a =>
      refine quiet a rfl fun span same => ?_
      subst same
      cases own
    | report span =>
      cases waits : deferred span with
      | true =>
        constructor
        · exact fun all => absurd (all.1 span rfl) (shut.not_loses waits)
        · exact fun free => absurd (free span List.mem_cons_self) (by simp [waits])
      | false =>
        obtain ⟨loses, next⟩ := shut.passed waits
        rw [perform, ih next others]
        constructor
        · rintro ⟨-, free⟩ other m
          rcases List.mem_cons.mp m with same | m
          · cases same
            exact waits
          · exact free other m
        · intro free
          refine ⟨fun other same => ?_, fun other m => free other (List.mem_cons_of_mem _ m)⟩
          cases same
          exact loses

end Late

/-- A closing call that has begun has emptied the filter. -/
def Emptied (l : Line) : Prop := l.shutdown ≠ .notBegun → l.held = 0

private theorem Emptied.step (emptied : l.Emptied) (ready : l.Ready) {a : Act}
    (other : ∀ span, a ≠ .report span) : (l.step a).Emptied := by
  have still (begun : a = .close → l.shutdown ≠ .notBegun)
      (same : l.shutdown = .notBegun → (l.step a).shutdown = .notBegun) :
      (l.step a).Emptied := by
    intro now
    unfold held
    rw [filter_step other begun]
    exact emptied fun fresh => now (same fresh)
  by_cases close : a = .close
  · subst close
    by_cases fresh : l.shutdown = .notBegun
    · intro _
      have only : l.host.MovesOnly [] (l.host.log (.pipelineClosing l.service)) := .of_tally rfl
      obtain ⟨-, -, none, -⟩ := moves_clear (ready.books.inside only List.not_mem_nil)
      simp only [Line.step, Line.close, fresh]
      exact none
    · exact still (fun _ => fresh) fun notBegun => absurd notBegun fresh
  · exact still (fun same => absurd same close) (shutdown_step l close).trans

private theorem emptied_performAll (emptied : l.Emptied) (ready : l.Ready) {deeds : List Deed}
    (quiet : deeds.all (!·.begins) = true) : (l.performAll deeds).Emptied := by
  induction deeds generalizing l with
  | nil => exact emptied
  | cons deed rest ih =>
    rw [List.all_cons, Bool.and_eq_true] at quiet
    cases deed with
    | enter | report => cases quiet.1
    | act a =>
      refine ih (emptied.step ready fun span same => ?_) (ready.step a) quiet.2
      subst same
      cases quiet.1

end Line

namespace ReporterSettings

def filter (s : ReporterSettings) : Filter where
  dropBelow := .integer s.filterBelow
  deferBelow := .integer s.deferBelow
  metered := true

def chain (s : ReporterSettings) (delivery : RemoteReporter) : Reporter :=
  let filtered : Reporter :=
    if s.filterBelow = 0 && s.deferBelow = 0 then .remote {} delivery
    else .filtering {} s.filter (.remote {} delivery)
  if s.logSpans then .composite {} [filtered, .logging {}] else filtered

private theorem exists_chain (s : ReporterSettings) {sender : Option Sender} {reporter : Reporter}
    (made : s.createReporter true sender = .ok reporter) :
    ∃ delivery : RemoteReporter, delivery.metered = true ∧ s.chain delivery = reporter := by
  -- a sender that was handed in and one of the settings go the same way
  cases sender with
  | none | some =>
    obtain ⟨sender, -, rest⟩ := ok_of_bind made
    obtain ⟨delivery, queued, done⟩ := ok_of_bind rest
    cases RemoteReporter.eq_of_create queued
    exact ⟨_, rfl, Except.ok.inj done⟩

private theorem exists_line (s : ReporterSettings) {p : Pipeline} {delivery : RemoteReporter}
    (metered : delivery.metered = true) (own : s.chain delivery = p.reporter) {h : Host}
    (unshown : h.tally.get .deferredPending = 0) :
    ∃ l : Line, Line.ofPipeline? p h = some l ∧ l.reporter = p.reporter ∧ l.host = h ∧ l.Ready ∧
      l.defers = s.filter.defers := by
  have refuses : (Delivery.start delivery h).Refuses := ⟨metered, fun begun => absurd rfl begun⟩
  let line (filter : Option Filter) (logs : Bool) : Line :=
    { service := p.service
      metricsPrefix := p.metricsPrefix
      sampler := p.sampler
      filter
      logs
      delivery := .start delivery h }
  unfold Line.ofPipeline?
  rw [← own]
  unfold chain
  by_cases off : (s.filterBelow = 0 && s.deferBelow = 0) = true
  · have never : (line none s.logSpans).defers = s.filter.defers := by
      funext span
      simp only [Bool.and_eq_true, decide_eq_true_eq] at off
      simp [Line.defers, line, Filter.defers, filter, off.1, off.2]
    refine ⟨line none s.logSpans, ?_, ?_, rfl, ⟨refuses, unshown, fun _ => rfl⟩, never⟩
    · rw [if_pos off]
      cases s.logSpans <;> rfl
    · rw [if_pos off]
      rfl
  · refine ⟨line (some s.filter) s.logSpans, ?_, ?_, rfl,
      ⟨refuses, ⟨rfl, rfl, unshown⟩, fun _ => rfl⟩, ?_⟩
    · rw [if_neg off]
      cases s.logSpans <;> rfl
    · rw [if_neg off]
      rfl
    · rfl

/-- Once the closing call of the reporters of settings has returned, a span that is reported is
dropped, thrown away or held, and nothing else happens. Where nothing is pending, every late report
raises one counter of two and leaves nothing pending if and only if the filter would hold none of
the late spans back: closing does not stop it from that. Nothing is pending where nothing was
reported while the call was under way. -/
theorem late_reports_of_chain (s : ReporterSettings) {sender : Option Sender} {p : Pipeline}
    (made : s.createReporter true sender = .ok p.reporter) {h : Host}
    (unshown : h.tally.get .deferredPending = 0) :
    ∃ l : Line, Line.ofPipeline? p h = some l ∧ l.reporter = p.reporter ∧ l.host = h ∧
      ∀ deeds : List Deed, (l.performAll deeds).delivery.closing = .returned →
        (∀ span, (l.performAll deeds).Discards span) ∧
        ((l.performAll deeds).pendingCount = 0 → ∀ late : List Deed,
          late.all Deed.isWhole = true → ((l.performAll deeds).LosesAll late ↔
            ∀ span, .report span ∈ late → s.filter.defers span = false)) ∧
        ∀ before during : List Deed, deeds = before ++ during →
          (l.performAll before).shutdown = .notBegun → during.all (!·.begins) = true →
            (l.performAll deeds).pendingCount = 0 := by
  obtain ⟨delivery, metered, own⟩ := s.exists_chain made
  obtain ⟨l, taken, whole, host, ready, defers⟩ := s.exists_line metered own unshown
  refine ⟨l, taken, whole, host, fun deeds returned => ?_⟩
  have after := ready.performAll deeds
  refine ⟨Line.discards_of_begun after (by simp [returned]), fun none late whole => ?_,
    fun before during split fresh quiet => ?_⟩
  · rw [after.books.pendingCount, Nat.cast_eq_zero] at none
    have shut : (l.performAll deeds).Shut s.filter.defers :=
      ⟨after, returned, none, (Line.defers_performAll l deeds).trans defers⟩
    exact shut.losesAll_iff whole
  · have begun : (l.performAll deeds).shutdown ≠ .notBegun := by
      intro notBegun
      cases (after.begun notBegun).symm.trans returned
    have emptied : (l.performAll deeds).Emptied := by
      rw [split, Line.performAll_append]
      exact Line.emptied_performAll (fun begun => absurd fresh begun) (ready.performAll before)
        quiet
    rw [after.books.pendingCount, emptied begun]
    rfl

def lasting (parent duration : Int) : Deed :=
  .report { traceId := 7, spanId := 1, operation := .text "home", parentId := parent,
            durationMicros := .integer duration }

def closing : List Deed :=
  ([.close, .close, .close, .proceed, .take, .proceed, .proceed, .close, .close, .close,
    .close] : List Act).map .act

def keeping (reporter : Reporter) : Pipeline where
  service := .text "shop"
  metricsPrefix := "shop_"
  sampler := .const true
  reporter
  metered := true

private def hasReturned : Closing → Bool
  | .returned => true
  | _ => false

private theorem eq_returned {c : Closing} (returned : hasReturned c = true) : c = .returned := by
  cases c with
  | returned => rfl
  | notBegun | entering | waiting | late | resigning | draining | waking | leaving | releasing =>
    cases returned

/-- After its closing the shop counts what it reports, but for a span that it would hold back. -/
theorem shop_late_reports :
    ∃ p l, TracerSettings.shop.reporter.createReporter true none = .ok p.reporter ∧
      Line.ofPipeline? p {} = some l ∧ (l.performAll closing).delivery.closing = .returned ∧
        (l.performAll closing).LosesAll [lasting 9 5, lasting 9 500, .act .take, lasting 0 50] ∧
          ¬ (l.performAll closing).LosesAll [lasting 9 50] := by
  obtain ⟨reporter, made⟩ : ∃ reporter,
      TracerSettings.shop.reporter.createReporter true none = .ok reporter := ⟨_, rfl⟩
  obtain ⟨l, taken, -, -, lates⟩ :=
    late_reports_of_chain TracerSettings.shop.reporter (p := keeping reporter) made (h := {}) rfl
  have ends : ((TracerSettings.shop.reporter.createReporter true none).toOption.bind fun reporter =>
      (Line.ofPipeline? (keeping reporter) {}).map fun l =>
        ((l.performAll []).shutdown, hasReturned (l.performAll closing).delivery.closing)) =
          some (.notBegun, true) := by
    decide +kernel
  simp only [made, Except.toOption, Option.bind_some, taken, Option.map_some, Option.some.injEq,
    Prod.mk.injEq] at ends
  have returned := eq_returned ends.2
  obtain ⟨-, loses, empties⟩ := lates closing returned
  have law {late : List Deed} (whole : late.all Deed.isWhole = true) :=
    loses (empties [] closing rfl ends.1 rfl) late whole
  refine ⟨keeping reporter, l, made, taken, returned, (law rfl).mpr ?_, fun all => ?_⟩
  · intro span m
    simp only [lasting, List.mem_cons, Deed.report.injEq, reduceCtorEq, List.not_mem_nil,
      or_false, false_or] at m
    rcases m with rfl | rfl | rfl <;> decide
  · have held := (law rfl).mp all _ List.mem_cons_self
    revert held
    decide

end ReporterSettings

end Tracing
