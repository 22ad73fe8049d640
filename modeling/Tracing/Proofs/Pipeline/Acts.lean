import Tracing.Proofs.Delivery.Interleaving
import Tracing.Pipeline.Line
/-!
What a pipeline does in one go is a run of acts: a call that reports, a flush on request and a call
that closes.
-/

set_option autoImplicit false
set_option relaxedAutoImplicit false

namespace Tracing

/-- The act by which the worker or the closing call makes a move. -/
def Act.ofMove : Move → Act
  | .report span => report span
  | .flush => flush
  | .take => take
  | .proceed => proceed
  | .close => close

namespace Reporter

private theorem one_le_depth (r : Reporter) : 1 ≤ r.depth := by cases r <;> simp [depth]

private theorem offer_logged (r : Reporter) (w : Watch) (span : Span) (h : Host) :
    (composite w [r, .logging {}]).offer span h =
      (composite w [(r.offer span h).1, .logging {}],
        (r.offer span h).2.log (spanNotice span)) := by
  obtain ⟨levels, deep⟩ : ∃ levels, r.depth = levels + 1 :=
    ⟨r.depth - 1, (Nat.sub_add_cancel r.one_le_depth).symm⟩
  have depth_eq : (composite w [r, .logging {}]).depth = levels + 1 + 1 := by
    simp [depth, depthAll, deep]
  simp [offer, depth_eq, deep, offerWithin, each]

private theorem close_logged (r : Reporter) (h : Host) :
    ((composite {} [r, .logging {}]).close h).2 =
      (composite {} [(r.close h).2.1, .logging {}], (r.close h).2.2) := by
  have recorded : ({} : Watch).record h = h := rfl
  have quiet : ({} : Watch).fault? = none := rfl
  simp only [close, closeAll, recorded, quiet]
  obtain ⟨_ | fault, r', h'⟩ := r.close h
  · simp [Watch.record]
  · rfl

end Reporter

namespace Line

structure IsFresh (l : Line) : Prop where
  delivery : l.delivery = .start l.delivery.reporter l.host
  shutdown : l.shutdown = .notBegun
  calls : l.calls = []

@[simp] theorem run_nil (l : Line) : l.run [] = l := rfl

@[simp] theorem run_cons (l : Line) (a : Act) (acts : List Act) :
    l.run (a :: acts) = (l.step a).run acts := rfl

private theorem run_append (l : Line) (before after : List Act) :
    l.run (before ++ after) = (l.run before).run after :=
  List.foldl_append ..

theorem shutdown_step (l : Line) {a : Act} (other : a ≠ .close) :
    (l.step a).shutdown = l.shutdown := by
  cases a with
  | close => exact absurd rfl other
  | sample | flush | take | proceed | clock | network => rfl
  | report span =>
    simp only [step, report, enter, screen]
    split
    · split <;> rfl
    · rfl
  | goOn =>
    simp only [step, goOn]
    split <;> rfl
  | poll =>
    simp only [step, poll]
    split <;> rfl

section Whole

variable (l : Line)

/-- Taking a span through the filter touches the filter and the surroundings alone. -/
theorem screen_eq (span : Span) :
    ∃ filter host, (l.screen span).2 = { l.inside host with filter } := by
  unfold screen
  split
  · exact ⟨l.filter, l.host, rfl⟩
  · exact ⟨_, _, rfl⟩

theorem clear_eq : ∃ filter host, l.clear = { l.inside host with filter } := by
  unfold clear
  split
  · exact ⟨l.filter, l.host, rfl⟩
  · exact ⟨_, _, rfl⟩

/-- An act changes the surroundings of a delivery or is one of its moves. -/
theorem delivery_step (a : Act) :
    (∃ host, (l.step a).delivery = { l.delivery with host }) ∨
      ∃ move, (l.step a).delivery = l.delivery.step move ∧ (move = .close → a = .close) := by
  cases a with
  | sample | clock | network => exact .inl ⟨_, rfl⟩
  | flush => exact .inr ⟨.flush, rfl, fun e => by cases e⟩
  | take => exact .inr ⟨.take, rfl, fun e => by cases e⟩
  | proceed => exact .inr ⟨.proceed, rfl, fun e => by cases e⟩
  | report span =>
    obtain ⟨filter, host, screened⟩ := screen_eq l span
    simp only [step, report, enter, screened]
    split <;> exact .inl ⟨_, rfl⟩
  | goOn call =>
    simp only [step, goOn]
    split
    · exact .inl ⟨l.host, rfl⟩
    · exact .inl ⟨_, rfl⟩
    · exact .inr ⟨.report _, rfl, fun e => by cases e⟩
  | close =>
    obtain ⟨filter, host, cleared⟩ := clear_eq (l.inside (l.host.log (.pipelineClosing l.service)))
    simp only [step, close, cleared]
    split
    · exact .inl ⟨_, rfl⟩
    · split
      · exact .inl ⟨_, rfl⟩
      · exact .inr ⟨.close, rfl, fun _ => trivial⟩
    · exact .inl ⟨l.host, rfl⟩
  | poll =>
    simp only [step, poll]
    split
    · exact .inl ⟨l.host, rfl⟩
    · exact .inl ⟨_, rfl⟩

theorem sample_eq_step (operation traceId : Json) :
    (l.pipeline.sample operation traceId l.host).2 =
      ((l.sample operation traceId).pipeline, (l.sample operation traceId).host) := by
  unfold sample pipeline Pipeline.sample
  dsimp only
  split <;> rfl

theorem returned_of_run {d : Delivery} (returned : d.closing = .returned) (moves : List Move) :
    (d.run moves).closing = .returned := by
  induction moves generalizing d with
  | nil => exact returned
  | cons move rest ih =>
    refine ih ?_
    cases move with
    | report | flush | take | proceed => exact returned
    | close =>
      simp only [Delivery.step, Delivery.closeStep, returned]

private theorem step_close (underway : l.shutdown = .underway)
    (open_ : l.delivery.closing ≠ .returned) : l.step .close = l.deliver .close := by
  simp only [step, close, underway]

/-- Moves of the worker are acts, and so are those of a closing call before the delivery is
closed. -/
private theorem run_ofMove {moves : List Move} (late : moves.all Move.isLate = true)
    (closes : .close ∈ moves →
      l.shutdown = .underway ∧ (l.delivery.run moves).closing ≠ .returned) :
    l.run (moves.map .ofMove) = { l with delivery := l.delivery.run moves } := by
  induction moves generalizing l with
  | nil => rfl
  | cons move rest ih =>
    -- a closing call that had returned before would go on to close the sampler
    rw [List.all_cons, Bool.and_eq_true] at late
    have step : l.step (.ofMove move) = l.deliver move := by
      cases move with
      | report | flush => cases late.1
      | take | proceed => rfl
      | close =>
        obtain ⟨underway, remains⟩ := closes List.mem_cons_self
        exact step_close l underway fun returned =>
          remains (returned_of_run returned (.close :: rest))
    rw [List.map_cons, run_cons, step]
    exact ih (l.deliver move) late.2 fun m => closes (List.mem_cons_of_mem move m)

private theorem late_map_ofMove {moves : List Move} (late : moves.all Move.isLate = true) :
    (moves.map .ofMove).all Act.isLate = true := by
  rw [List.all_map]
  refine List.all_eq_true.mpr fun move m => ?_
  have moved := List.all_eq_true.mp late move m
  cases move with
  | report | flush => cases moved
  | take | proceed | close => rfl

private theorem run_goOn {span : Span} {left : List Span} (alone : l.calls = [⟨span, left⟩]) :
    l.run (List.replicate (left.length + 1) (.goOn 0)) =
      { (l.handOver left).tell span with calls := [] } := by
  induction left generalizing l with
  | nil =>
    have ended : l.step (.goOn 0) = { l.tell span with calls := [] } := by
      simp [step, goOn, alone]
    exact ended
  | cons next left ih =>
    have went : l.step (.goOn 0) = { l.deliver (.report next) with calls := [⟨span, left⟩] } := by
      simp [step, goOn, alone]
    rw [List.length_cons, List.replicate_succ, run_cons, went, ih _ rfl]
    rfl

private theorem feed_remote (d : Delivery) (spans : List Span) :
    Reporter.feed (Reporter.offerWithin 1) (.remote {} d.reporter) spans d.host =
      (.remote {} (d.run (spans.map .report)).reporter, (d.run (spans.map .report)).host) := by
  induction spans generalizing d with
  | nil => rfl
  | cons span rest ih => exact ih (d.step (.report span))

private theorem offer_front (span : Span) :
    l.front.offer span l.host =
      (((l.screen span).2.handOver (l.screen span).1).front,
        ((l.screen span).2.handOver (l.screen span).1).host) := by
  obtain ⟨_, _, _, filter, _, d, _, _⟩ := l
  cases filter with
  | none => rfl
  | some f =>
    -- the filter's spans go to a remote reporter one level below it, in the filter's surroundings
    let passed := f.pass span d.host
    let fed := Reporter.feed (Reporter.offerWithin 1) (.remote {} d.reporter) passed.1 passed.2.2
    let after := ({ d with host := passed.2.2 } : Delivery).run (passed.1.map .report)
    have same : fed = (.remote {} after.reporter, after.host) :=
      feed_remote { d with host := passed.2.2 } passed.1
    change (Reporter.filtering {} passed.2.1 fed.1, fed.2) =
      (Reporter.filtering {} passed.2.1 (.remote {} after.reporter), after.host)
    rw [same]

theorem offer_reporter (span : Span) :
    l.reporter.offer span l.host =
      ((((l.screen span).2.handOver (l.screen span).1).tell span).reporter,
        (((l.screen span).2.handOver (l.screen span).1).tell span).host) := by
  have offered := offer_front l span
  obtain ⟨_, _, _, filter, logs, d, _, _⟩ := l
  cases logs with
  | false => cases filter <;> exact offered
  | true =>
    rw [reporter, if_pos rfl, Reporter.offer_logged, offered]
    cases filter <;> rfl

def act (f : RemoteReporter → Host → RemoteReporter × Host) : Line :=
  { l with delivery := l.delivery.act f }

private theorem onRemote_reporter (f : RemoteReporter → Host → RemoteReporter × Host) :
    l.reporter.onRemote 0 f l.host = ((l.act f).reporter, (l.act f).host) := by
  obtain ⟨_, _, _, filter, logs, _, _, _⟩ := l
  cases filter <;> cases logs <;> rfl

private theorem settle_reporter :
    l.reporter.settle l.host =
      ((l.act RemoteReporter.settle).reporter, (l.act RemoteReporter.settle).host) := by
  obtain ⟨_, _, _, filter, logs, _, _, _⟩ := l
  cases filter <;> cases logs <;> rfl

private theorem close_reporter :
    (l.reporter.close l.host).2 =
      ((l.clear.act fun r h => (r.close h).2).reporter,
        (l.clear.act fun r h => (r.close h).2).host) := by
  have front : (l.front.close l.host).2 =
      ((l.clear.act fun r h => (r.close h).2).front,
        (l.clear.act fun r h => (r.close h).2).host) := by
    obtain ⟨_, _, _, filter, _, _, _, _⟩ := l
    cases filter <;> rfl
  obtain ⟨_, _, _, filter, logs, _, _, _⟩ := l
  cases logs with
  | false => cases filter <;> exact front
  | true =>
    rw [reporter, if_pos rfl, Reporter.close_logged, front]
    cases filter <;> rfl

private theorem settle_eq_run : ∃ (acts : List Act)
    (delivery : Delivery), acts.all Act.isLate = true ∧
    l.run acts = { l with delivery } ∧
      ({ l with delivery } : Line).reporter = (l.act RemoteReporter.settle).reporter ∧
      delivery.host = (l.act RemoteReporter.settle).host := by
  obtain ⟨moves, work, reporter, host, -⟩ := Delivery.works_settle l.delivery
  have late := Delivery.late_of_work work
  have ran := run_ofMove l late fun closes => by
    cases List.all_eq_true.mp work _ closes
  refine ⟨moves.map .ofMove, _, late_map_ofMove late, ran, ?_, host⟩
  simp only [Line.reporter, front, act, Delivery.act, reporter]
  rfl

private theorem passed_eq (span : Span) :
    ∃ filter delivery, l.passed span = { l with filter, delivery } := by
  obtain ⟨filter, _, screened⟩ := screen_eq l span
  refine ⟨filter, (l.passed span).delivery, ?_⟩
  simp only [passed, screened]
  rfl

private theorem run_report (idle : l.calls = []) {span : Span} (sampled : span.isSampled = true) :
    (l.step (.report span)).run (List.replicate ((l.screen span).1.length + 1) (.goOn 0)) =
      l.passed span := by
  obtain ⟨_, _, screened⟩ := screen_eq l span
  have still : (l.screen span).2.calls = [] := by
    rw [screened]
    exact idle
  have begun : l.step (.report span) =
      { (l.screen span).2 with calls := [⟨span, (l.screen span).1⟩] } := by
    simp [step, report, enter, sampled, still]
  rw [begun, run_goOn _ rfl]
  simp only [passed, tell, handOver, inside, ← still]
  rfl

/-- What a pipeline does with a span that is reported is a run of acts. -/
theorem report_eq_run (idle : l.calls = []) (span : Span) :
    ∃ acts : List Act, acts.all Act.isLate = true ∧
      l.pipeline.report span l.host =
        ((l.run (.report span :: acts)).pipeline, (l.run (.report span :: acts)).host) ∧
      (l.run (.report span :: acts)).calls = [] := by
  by_cases sampled : span.isSampled = true
  · obtain ⟨acts, delivery, late, settled, same, host⟩ := settle_eq_run (l.passed span)
    let goes : List Act := List.replicate ((l.screen span).1.length + 1) (.goOn 0)
    have ran : l.run (.report span :: (goes ++ acts)) = { l.passed span with delivery } := by
      rw [run_cons, run_append, run_report l idle sampled, settled]
    have reported : l.reporter.report span l.host =
        (({ l.passed span with delivery } : Line).reporter, delivery.host) := by
      rw [Reporter.report, offer_reporter, same, host]
      exact settle_reporter (l.passed span)
    obtain ⟨filter, before, through⟩ := passed_eq l span
    refine ⟨goes ++ acts, by simp [goes, late, Act.isLate], ?_, ?_⟩
    · have own : l.pipeline.reporter = l.reporter := rfl
      simp only [Pipeline.report, sampled, if_true, own, reported, ran, through]
      rfl
    · rw [ran, through]
      exact idle
  · have still : l.run [.report span] = l := by simp [step, report, sampled]
    refine ⟨[], rfl, ?_, ?_⟩
    · rw [still]
      simp [Pipeline.report, sampled]
    · rw [still]
      exact idle

theorem flush_eq_run : ∃ acts : List Act, acts.all Act.isLate = true ∧
    l.reporter.flushRemote 0 l.host =
      ((l.run (.flush :: acts)).reporter, (l.run (.flush :: acts)).host) := by
  obtain ⟨acts, delivery, late, settled, same, host⟩ := settle_eq_run (l.step .flush)
  refine ⟨acts, late, ?_⟩
  rw [run_cons, settled, same]
  exact (onRemote_reporter l RemoteReporter.flush).trans (Prod.ext rfl host.symm)

private theorem close_pipeline (fresh : l.shutdown = .notBegun) {reporter : Reporter} {h : Host}
    (shut : (l.reporter.close (l.host.log (.pipelineClosing l.service))).2 = (reporter, h)) :
    (l.pipeline.close l.host).2 =
      ({ l.pipeline with
          reporter
          sampler := (l.sampler.close {} h).2.1
          closed := true }, (l.sampler.close {} h).2.2) := by
  have opened : l.pipeline.closed = false := by simp [pipeline, fresh]
  let closed := l.reporter.close (l.host.log (.pipelineClosing l.service))
  unfold Pipeline.close
  rw [opened]
  change ({ l.pipeline with
      reporter := closed.2.1
      sampler := (l.sampler.close {} closed.2.2).2.1
      closed := true }, (l.sampler.close {} closed.2.2).2.2) = _
  have same : closed.2 = (reporter, h) := shut
  rw [same]

theorem close_eq_run (fresh : l.shutdown = .notBegun) (begun : l.delivery.closing = .notBegun)
    (opened : l.delivery.reporter.closed = false) :
    ∃ acts : List Act, acts.all Act.isLate = true ∧
      (l.pipeline.close l.host).2 = ((l.run acts).pipeline, (l.run acts).host) ∧
      (l.run acts).shutdown = .returned := by
  let logged := l.inside (l.host.log (.pipelineClosing l.service))
  let entered := logged.clear
  obtain ⟨filter, cleared, same⟩ : ∃ filter host, entered = { l.inside host with filter } :=
    clear_eq logged
  obtain ⟨moves, late, remains, remote, host, returned⟩ :=
    Delivery.close_eq_run entered.delivery (by rw [same]; exact opened)
      (by rw [same]; exact begun)
  -- all but the last move of the delivery; the step after that one closes the sampler
  let left : Line :=
    { entered with shutdown := .underway, delivery := entered.delivery.run moves }
  have ran : (l.step .close).run (moves.map .ofMove) = left := by
    have enter : l.step .close = { entered with shutdown := .underway } := by
      simp only [step, close, fresh, entered, logged]
    rw [enter]
    exact run_ofMove _ late fun _ => ⟨rfl, remains⟩
  have delivered : left.step .close = left.deliver .close := step_close left rfl remains
  have sampler : entered.sampler = l.sampler := by
    rw [same]
    rfl
  let closed := l.sampler.close {} (left.deliver .close).host
  have finished : (left.deliver .close).step .close =
      { (left.deliver .close).inside closed.2.2 with
        sampler := closed.2.1
        shutdown := .returned } := by
    simp only [step, close, left, deliver, returned, closed, sampler]
  have shut : (l.reporter.close (l.host.log (.pipelineClosing l.service))).2 =
      ((left.deliver .close).reporter, (left.deliver .close).host) := by
    have parts := close_reporter logged
    refine parts.trans (Prod.ext ?_ host.symm)
    simp only [reporter, front, act, Delivery.act, deliver, left, remote]
    rfl
  have ended : l.run (.close :: (moves.map .ofMove ++ [.close, .close])) =
      { (left.deliver .close).inside closed.2.2 with
        sampler := closed.2.1
        shutdown := .returned } := by
    rw [run_cons, run_append, ran, run_cons, run_cons, run_nil, delivered, finished]
  refine ⟨_, ?_, ?_, congrArg Line.shutdown ended⟩
  · simp [late_map_ofMove late, Act.isLate]
  · have parts : entered.service = l.service ∧ entered.metricsPrefix = l.metricsPrefix := by
      rw [same]
      exact ⟨rfl, rfl⟩
    rw [ended, close_pipeline l fresh shut]
    simp only [pipeline, left, deliver, parts.1, parts.2]
    rfl

end Whole

end Line

end Tracing
