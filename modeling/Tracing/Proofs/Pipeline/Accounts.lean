import Tracing.Proofs.Pipeline.Conservation
import Tracing.Proofs.Sampling.Validity
/-!
The accounts of a pipeline that is built from settings. Building one moves no account, so a run that
ends with the pipeline closed leaves every reported span in one counter.
-/

set_option autoImplicit false
set_option relaxedAutoImplicit false

namespace Tracing

open Metrics (Instrument)

namespace Line

variable {l : Line} {size : Number}

/-- Whenever a run gives the queue up, the worker waits on an empty queue, is sending or has
ended. -/
def GivesUpAtRest (l : Line) (acts : List Act) : Prop :=
  ∀ before after, acts = before ++ .close :: after →
    (l.run before).delivery.closing = .resigning → (l.run before).delivery.AtRest

/-- What the instruments show after a run. -/
structure Accounts (l : Line) (acts : List Act) : Prop where
  /-- One span at most is in no counter, and none unless the worker had it in hand, or was about to
  take it, when the queue was given up. -/
  reported : ∃ strays ≤ 1, (acts.countP Act.isReport : Int) =
    (l.run acts).host.tally.get .reporterSuccess + (l.run acts).host.tally.get .reporterFailure +
      (l.run acts).host.tally.get .reporterDropped + (l.run acts).host.tally.get .filteredSpans +
        (l.run acts).host.tally.get .deferredDropped + (strays : Nat) ∧
    ((l.run acts).delivery.overtaken = false → strays = 0)
  overtaken : l.GivesUpAtRest acts → (l.run acts).delivery.overtaken = false
  /-- Reports of spans that were not sampled might as well not have been made. -/
  unsampled : l.run (acts.filter Act.isHeard) = l.run acts
  started : (l.run acts).host.tally.get .startedSampled = (l.answers acts).countP (·.sampled)
  notStarted :
    (l.run acts).host.tally.get .startedNotSampled = (l.answers acts).countP (!·.sampled)
  deferred : (l.run acts).host.tally.get .deferredPending = 0
  queued : (l.run acts).host.tally.get .reporterQueueLength = 0

/-- A line that was just put together from settings with an endpoint. -/
structure IsBuilt (l : Line) (size : Number) : Prop where
  fresh : l.IsFresh
  reporter : l.delivery.reporter.IsFresh
  metered : l.delivery.reporter.metered = true
  sender : ∃ endpoint token timeout client, Sender.create size
    (.http endpoint token timeout client) = .ok l.delivery.reporter.sender
  filter : ∀ f, l.filter = some f → f.metered = true ∧ f.pending = [] ∧ f.pendingCount = 0

private theorem IsBuilt.books (built : l.IsBuilt size)
    (shown : l.host.tally.get .deferredPending = 0) : l.Books ∧ l.held = 0 := by
  have empty := built.filter
  clear built
  obtain ⟨_, _, _, filter, _, _, _, _⟩ := l
  cases filter with
  | none => exact ⟨shown, rfl⟩
  | some f =>
    obtain ⟨metered, pending, count⟩ := empty f rfl
    refine ⟨⟨metered, ?_, ?_⟩, congrArg List.length pending⟩
    · rw [pending, count]
      rfl
    · rw [count]
      exact shown

private theorem IsBuilt.accounted (built : l.IsBuilt size) (settled : Delivery.settledIn l.host = 0)
    (dropped : l.host.tally.get .reporterDropped = 0) :
    l.delivery.WellFormed size true ∧ l.delivery.view.Accounted [] 0 := by
  obtain ⟨endpoint, token, timeout, client, sender⟩ := built.sender
  have fresh := built.reporter
  have wellFormed := Delivery.wellFormed_start sender fresh l.host
  have balanced : (Delivery.start l.delivery.reporter l.host).view.Balanced 0 := by
    rw [Delivery.view_start sender fresh, settled, dropped]
    rfl
  rw [built.metered] at wellFormed
  rw [built.fresh.delivery]
  refine ⟨wellFormed, Delivery.coherent_start sender fresh l.host,
    Delivery.strays_start sender fresh l.host, ?_, fun _ => balanced⟩
  rw [Delivery.view_start sender fresh]
  rfl

private theorem IsBuilt.kept (built : l.IsBuilt size)
    (unmoved : ∀ i ∈ accountInstruments, l.host.tally.get i = 0) : l.Kept size 0 := by
  have settled : Delivery.settledIn l.host = 0 := by
    unfold Delivery.settledIn
    rw [unmoved .reporterSuccess (by decide), unmoved .reporterFailure (by decide)]
    rfl
  have thrown : Filter.thrownAway l.host = 0 := by
    unfold Filter.thrownAway
    rw [unmoved .filteredSpans (by decide), unmoved .deferredDropped (by decide)]
    rfl
  obtain ⟨wellFormed, accounted⟩ :=
    built.accounted settled (unmoved .reporterDropped (by decide))
  obtain ⟨books, held⟩ := built.books (unmoved .deferredPending (by decide))
  have fresh := built.fresh
  have begun : l.delivery.closing = .notBegun := congrArg Delivery.closing fresh.delivery
  have reported : l.delivery.reported = 0 := congrArg Delivery.reported fresh.delivery
  exact {
    wellFormed
    accounted
    books
    spans := by
      rw [thrown, held, reported, inHand, fresh.calls]
      rfl
    begun := fun _ => begun
    emptied := fun begun => absurd fresh.shutdown begun
    finished := fun returned => by cases fresh.shutdown.symm.trans returned
    shown := fun returned => by cases begun.symm.trans returned }

end Line

theorem RemoteReporter.eq_of_create {r created : RemoteReporter} (made : r.create = .ok created) :
    created = r := by
  unfold create at made
  split at made
  · cases made
  · cases made
    rfl

private theorem ReporterSettings.parts_of_createReporter (s : ReporterSettings) {endpoint : String}
    (given : s.endpoint = some endpoint) (named : endpoint ≠ "") {reporter : Reporter}
    (made : s.createReporter true none = .ok reporter) :
    ∃ (delivery : RemoteReporter) (filter : Option Filter),
      delivery.IsFresh ∧ delivery.metered = true ∧
        (∃ endpoint token timeout client, Sender.create (.integer s.maxBatchSize)
          (.http endpoint token timeout client) = .ok delivery.sender) ∧
        (∀ f, filter = some f → f.metered = true ∧ f.pending = [] ∧ f.pendingCount = 0) ∧
        ∀ l : Line, l.delivery.reporter = delivery → l.filter = filter → l.logs = s.logSpans →
          l.reporter = reporter := by
  obtain ⟨sender, sends, rest⟩ := ok_of_bind made
  obtain ⟨delivery, queued, done⟩ := ok_of_bind rest
  have remote := RemoteReporter.eq_of_create queued
  have created : Sender.create (.integer s.maxBatchSize)
      (.http (.text endpoint) (Sender.optionalJson s.authToken) (.real s.httpTimeout)
        { owned := true }) = .ok sender := by
    simpa [ReporterSettings.createSender, given, named] using sends
  let filter : Filter :=
    { dropBelow := .integer s.filterBelow, deferBelow := .integer s.deferBelow, metered := true }
  let front : Option Filter :=
    if s.filterBelow = 0 && s.deferBelow = 0 then none else some filter
  refine ⟨delivery, front, ?_, by rw [remote], ⟨_, _, _, _, by rw [remote]; exact created⟩, ?_, ?_⟩
  · rw [remote]
    exact ⟨rfl, rfl, rfl, rfl⟩
  · intro f at_
    simp only [front] at at_
    split at at_
    · cases at_
    · cases at_
      exact ⟨rfl, rfl, rfl⟩
  · intro l same filtered logged
    cases done
    unfold Line.reporter Line.front
    rw [same, filtered, logged]
    by_cases off : (s.filterBelow = 0 && s.deferBelow = 0) = true
    · simp only [front, if_pos off]
    · simp only [front, if_neg off]
      rfl

private theorem TracerSettings.exists_line (s : TracerSettings) {endpoint : String}
    (given : s.reporter.endpoint = some endpoint) (named : endpoint ≠ "") {h h' : Host}
    {p : Pipeline} (built : s.build true none h = (.ok p, h')) :
    ∃ l : Line, l.IsBuilt (.integer s.reporter.maxBatchSize) ∧ l.pipeline = p ∧ l.host = h' ∧
      h.MovesOnly RemoteSampler.instruments h' := by
  have only := s.sampler.movesOnly_createSampler (.text s.service) true h
  unfold build at built
  split at built
  case h_1 => cases built
  case h_2 sampler after sampled =>
    rw [sampled] at only
    have hosts : after = h' := congrArg Prod.snd built
    obtain ⟨reporter, made, assembled⟩ := ok_of_map (congrArg Prod.fst built)
    obtain ⟨delivery, filter, fresh, metered, sender, empty, whole⟩ :=
      s.reporter.parts_of_createReporter given named made
    let l : Line :=
      { service := .text s.service
        metricsPrefix := s.metricsPrefix
        sampler
        filter
        logs := s.reporter.logSpans
        delivery := .start delivery after }
    have put : l.reporter = reporter := whole l rfl rfl rfl
    refine ⟨l, ⟨⟨rfl, rfl, rfl⟩, fresh, metered, sender, empty⟩, ?_, hosts, hosts ▸ only⟩
    rw [← assembled, ← put]
    rfl

/-- A small queue behind a filter and a log. -/
def TracerSettings.shop : TracerSettings where
  service := "shop"
  sampler := { choice := .const, parameter := .one }
  reporter := {
    endpoint := some "http://collector"
    maxQueueSize := 1
    maxBatchSize := 1
    filterBelow := 10
    deferBelow := 100
    logSpans := true }

end Tracing
