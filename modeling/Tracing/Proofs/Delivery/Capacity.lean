import Tracing.Proofs.Delivery.Accounting
import Tracing.Proofs.Delivery.Containment
/-!
What takes the places of the queue. Requests to flush wait among the spans, so spans are refused,
and the gauge moves, by both together; where no request waits, the spans have the queue to
themselves.
-/

set_option autoImplicit false
set_option relaxedAutoImplicit false

namespace Tracing

def Command.isFlush : Command → Bool
  | flush => true
  | _ => false

def Event.isReport : Event → Bool
  | report _ => true
  | _ => false

def Event.isFlush : Event → Bool
  | flush => true
  | _ => false

/-- Whether an event is a call of an open reporter, and so no step of the worker. -/
def Event.isCall (e : Event) : Bool := e.isReport || e.isFlush

private theorem Event.ne_close_of_isCall {call : Event} (called : call.isCall = true) (p : Reply) :
    call ≠ .close p := by
  rintro rfl
  cases called

private theorem Event.unclosed_cons {event : Event} {rest : List Event}
    (unclosed : ∀ p, .close p ∉ event :: rest) :
    (∀ p, event ≠ .close p) ∧ ∀ p, .close p ∉ rest := by
  refine ⟨?_, fun p m => unclosed p (List.mem_cons_of_mem _ m)⟩
  rintro p rfl
  exact unclosed p List.mem_cons_self

private theorem length_eq_spans_add_requests {queue : List Command} (unasked : .close ∉ queue) :
    queue.length = (queuedSpans queue).length + queue.countP Command.isFlush := by
  induction queue with
  | nil => rfl
  | cons command rest ih =>
    obtain ⟨own, others⟩ := not_or.mp (mt List.mem_cons.mpr unasked)
    have later := ih others
    rw [List.length_cons, queuedSpans_cons, List.length_append, List.countP_cons]
    cases command with
    | append span =>
      simp only [Command.span?, Command.isFlush, Option.toList_some, List.length_singleton,
        Bool.false_eq_true, if_false]
      omega
    | flush =>
      simp only [Command.span?, Command.isFlush, Option.toList_none, List.length_nil, if_true]
      omega
    | close => exact absurd rfl own

namespace RemoteReporter

/-- A reporter that counts and is not closed, with so many places in its queue. -/
structure IsOpen (places : Nat) (r : RemoteReporter) : Prop where
  size : r.maxQueueSize = .integer places
  metered : r.metered = true
  unclosed : r.closed = false
  unasked : .close ∉ r.queue
  within : r.queue.length ≤ places

variable {places : Nat} {r r' : RemoteReporter} {p : Reply}

private theorem isOpen_of_isFresh (fresh : r.IsFresh) (size : r.maxQueueSize = .integer places)
    (metered : r.metered = true) : r.IsOpen places :=
  ⟨size, metered, fresh.closed, by simp [fresh.queue], by simp [fresh.queue]⟩

private theorem IsOpen.refuses_iff (isOpen : r.IsOpen places) :
    r.refuses = true ↔ places ≤ r.queue.length := by
  unfold refuses isFull
  rw [isOpen.unclosed, isOpen.size, Bool.false_or, Number.le_integer, Nat.cast_le]

private theorem IsOpen.asked (isOpen : r.IsOpen places) {command : Command}
    (other : .close ≠ command) :
    (r.asked command).IsOpen places := by
  unfold RemoteReporter.asked
  cases full : r.refuses with
  | true => exact isOpen
  | false =>
    have room := mt isOpen.refuses_iff.mpr (Bool.eq_false_iff.mp full)
    refine ⟨isOpen.size, isOpen.metered, isOpen.unclosed, ?_, ?_⟩
    · simp [isOpen.unasked, other]
    · simp only [Bool.false_eq_true, if_false, List.length_append, List.length_singleton]
      omega

private theorem IsOpen.worked (isOpen : r.IsOpen places) (worked : r.Worked p r') :
    r'.IsOpen places := by
  have tail {command : Command} {rest : List Command} (queue : r.queue = command :: rest) :
      .close ∉ rest ∧ rest.length ≤ places := by
    have unasked := isOpen.unasked
    have within := isOpen.within
    rw [queue] at unasked within
    exact ⟨mt (List.mem_cons_of_mem _) unasked, (Nat.le_succ _).trans within⟩
  obtain ⟨size, metered, unclosed, unasked, within⟩ := isOpen
  cases worked with
  | idle | look | stop | bind | quit | start | goOn | finish | lose =>
    exact ⟨size, metered, unclosed, unasked, within⟩
  | take _ queue =>
    obtain ⟨unasked, within⟩ := tail queue
    exact ⟨size, metered, unclosed, unasked, within⟩

end RemoteReporter

namespace Handling

def spans (s : Handling) : Nat := (queuedSpans s.delivery.reporter.queue).length

def requests (s : Handling) : Nat := s.delivery.reporter.queue.countP Command.isFlush

/-- How many spans are counted as dropped in the course of some events. -/
def dropped (s : Handling) (events : List Event) : Int :=
  Delivery.gained s.delivery.host (s.run events).delivery.host .reporterDropped

variable {places : Nat} {s : Handling}

private theorem isOpen_step (isOpen : s.delivery.reporter.IsOpen places) {event : Event}
    (unclosed : ∀ p, event ≠ .close p) : (s.step event).delivery.reporter.IsOpen places := by
  cases event with
  | report span =>
    show (s.delivery.reporter.offer span s.delivery.host).1.IsOpen places
    rw [RemoteReporter.offer_reporter]
    exact isOpen.asked Command.noConfusion
  | flush =>
    show (s.delivery.reporter.tick s.delivery.host).1.IsOpen places
    rw [RemoteReporter.tick_reporter]
    exact isOpen.asked Command.noConfusion
  | work p => exact isOpen.worked (RemoteReporter.worked_workWith _ p s.delivery.host)
  | close p => exact absurd rfl (unclosed p)

private theorem isOpen_run (isOpen : s.delivery.reporter.IsOpen places) {events : List Event}
    (unclosed : ∀ p, .close p ∉ events) : (s.run events).delivery.reporter.IsOpen places := by
  induction events generalizing s with
  | nil => exact isOpen
  | cons event rest ih =>
    obtain ⟨own, others⟩ := Event.unclosed_cons unclosed
    exact ih (isOpen_step isOpen own) others

private theorem requests_step (s : Handling) {event : Event} (unclosed : ∀ p, event ≠ .close p) :
    (s.step event).requests ≤ s.requests + if event.isFlush then 1 else 0 := by
  have asked (command : Command) : (s.delivery.reporter.asked command).queue.countP
      Command.isFlush ≤ s.requests + if command.isFlush then 1 else 0 := by
    unfold requests RemoteReporter.asked
    split
    · exact Nat.le_add_right _ _
    · rw [List.countP_append, List.countP_singleton]
  cases event with
  | report span =>
    show (s.delivery.reporter.offer span s.delivery.host).1.queue.countP _ ≤ _
    rw [RemoteReporter.offer_reporter]
    exact asked (.append span)
  | flush =>
    show (s.delivery.reporter.tick s.delivery.host).1.queue.countP _ ≤ _
    rw [RemoteReporter.tick_reporter]
    exact asked .flush
  | close p => exact absurd rfl (unclosed p)
  | work p =>
    have worked := RemoteReporter.worked_workWith s.delivery.reporter p s.delivery.host
    show (s.delivery.reporter.workWith p s.delivery.host).1.queue.countP _ ≤ s.requests
    unfold requests
    generalize (s.delivery.reporter.workWith p s.delivery.host).1 = r' at worked ⊢
    cases worked with
    | idle | look | stop | bind | quit | start | goOn | finish | lose => exact le_refl _
    | take _ queue =>
      rw [queue]
      exact List.Sublist.countP_le (List.sublist_cons_self _ _)

private theorem requests_run (s : Handling) {events : List Event}
    (unclosed : ∀ p, .close p ∉ events) :
    (s.run events).requests ≤ s.requests + events.countP Event.isFlush := by
  induction events generalizing s with
  | nil => exact le_refl _
  | cons event rest ih =>
    obtain ⟨own, others⟩ := Event.unclosed_cons unclosed
    have first := s.requests_step own
    have later := ih (s.step event) others
    rw [run_cons, List.countP_cons]
    omega

private theorem dropped_cons (s : Handling) (event : Event) (rest : List Event) :
    s.dropped (event :: rest) = s.dropped [event] + (s.step event).dropped rest := by
  unfold dropped Delivery.gained
  simp only [run_cons, run_nil]
  omega

section Calls

variable (isOpen : s.delivery.reporter.IsOpen places)

include isOpen

private theorem refuses_iff :
    s.delivery.reporter.refuses = true ↔ places ≤ s.spans + s.requests := by
  rw [isOpen.refuses_iff, length_eq_spans_add_requests isOpen.unasked]
  rfl

private theorem dropped_report (span : Span) :
    s.dropped [.report span] = if places ≤ s.spans + s.requests then 1 else 0 := by
  show Delivery.gained _ (s.delivery.reporter.offer span s.delivery.host).2 _ = _
  unfold Delivery.gained RemoteReporter.offer
  rw [isOpen.metered]
  cases refuses : s.delivery.reporter.refuses with
  | true =>
    rw [if_pos rfl, if_pos ((refuses_iff isOpen).mp refuses)]
    simp
  | false =>
    rw [if_neg Bool.false_ne_true, if_neg (mt (refuses_iff isOpen).mpr (by simp [refuses]))]
    exact sub_self _

private theorem tally_flush : s.dropped [.flush] = 0 ∧
    (s.step .flush).delivery.host.tally.get .reporterQueueLength = s.spans + s.requests := by
  have length := length_eq_spans_add_requests isOpen.unasked
  have shown : (s.step .flush).delivery.host =
      s.delivery.host.gauge true .reporterQueueLength s.delivery.reporter.queue.length := by
    show (s.delivery.reporter.tick s.delivery.host).2 = _
    unfold RemoteReporter.tick
    rw [isOpen.metered]
    dsimp only
    split <;> rfl
  constructor
  · unfold dropped Delivery.gained
    rw [run_cons, run_nil, shown, Host.get_gauge, if_neg (by simp)]
    exact sub_self _
  · rw [shown, Host.get_gauge, if_pos ⟨rfl, rfl⟩, length]
    exact Nat.cast_add _ _

private theorem waiting_asked (command : Command) :
    (s.delivery.reporter.asked command).queue.length =
      min places (s.delivery.reporter.queue.length + 1) := by
  have within := isOpen.within
  have full := isOpen.refuses_iff
  unfold RemoteReporter.asked
  cases refuses : s.delivery.reporter.refuses with
  | true =>
    have reached := full.mp refuses
    rw [if_pos rfl]
    omega
  | false =>
    have room := mt full.mpr (by simp [refuses])
    rw [if_neg Bool.false_ne_true, List.length_append, List.length_singleton]
    omega

private theorem waiting_call {call : Event} (called : call.isCall = true) :
    (s.step call).spans + (s.step call).requests = min places (s.spans + s.requests + 1) := by
  have stays := isOpen_step isOpen (Event.ne_close_of_isCall called)
  have before := length_eq_spans_add_requests isOpen.unasked
  have after := length_eq_spans_add_requests stays.unasked
  unfold spans requests
  rw [← before, ← after]
  cases call with
  | report span =>
    rw [← waiting_asked isOpen (.append span), ← RemoteReporter.offer_reporter]
    rfl
  | flush =>
    rw [← waiting_asked isOpen .flush, ← RemoteReporter.tick_reporter]
    rfl
  | work | close => cases called

private theorem dropped_call {call : Event} (called : call.isCall = true) :
    s.dropped [call] =
      if places ≤ s.spans + s.requests then [call].countP Event.isReport else 0 := by
  cases call with
  | report span =>
    rw [dropped_report isOpen span]
    split <;> rfl
  | flush =>
    rw [(tally_flush isOpen).1]
    split <;> rfl
  | work | close => cases called

end Calls

/-- While the worker is held, the first calls take the free places, and of the later ones every
report is dropped. -/
private theorem dropped_calls (isOpen : s.delivery.reporter.IsOpen places) {calls : List Event}
    (called : ∀ call ∈ calls, call.isCall = true) :
    s.dropped calls = (calls.drop (places - (s.spans + s.requests))).countP Event.isReport := by
  -- a call that finds a place leaves one place fewer, so it is one of those that are left out
  induction calls generalizing s with
  | nil => simp [dropped, Delivery.gained]
  | cons call rest ih =>
    obtain ⟨own, others⟩ := List.forall_mem_cons.mp called
    have stays := isOpen_step isOpen (Event.ne_close_of_isCall own)
    rw [dropped_cons, dropped_call isOpen own, ih stays others, waiting_call isOpen own]
    by_cases full : places ≤ s.spans + s.requests
    · rw [if_pos full, min_eq_left (by omega), Nat.sub_self, Nat.sub_eq_zero_of_le full,
        List.drop_zero, List.drop_zero, ← Nat.cast_add, ← List.countP_append]
      rfl
    · obtain ⟨free, left⟩ : ∃ free, places - (s.spans + s.requests) = free + 1 :=
        ⟨places - (s.spans + s.requests) - 1, by omega⟩
      have fewer : places - min places (s.spans + s.requests + 1) = free := by omega
      rw [if_neg full, fewer, left, List.drop_succ_cons, Nat.cast_zero, zero_add]

private theorem countP_calls {calls : List Event} (called : ∀ call ∈ calls, call.isCall = true) :
    calls.length = calls.countP Event.isReport + calls.countP Event.isFlush := by
  induction calls with
  | nil => rfl
  | cons call rest ih =>
    obtain ⟨own, others⟩ := List.forall_mem_cons.mp called
    have later := ih others
    rw [List.length_cons, List.countP_cons, List.countP_cons]
    cases call with
    | report | flush =>
      simp only [Event.isReport, Event.isFlush, if_true, Bool.false_eq_true, if_false]
      omega
    | work | close => cases own

/-- How the places of a queue are taken. Spans and requests to flush wait in it together; a span is
refused where they take all places, and the gauge shows them all. While the worker is held, as many
spans are dropped as go beyond the free places, and one more for each request that took one. -/
structure SharesPlaces (s : Handling) (places : Nat) : Prop where
  within : s.spans + s.requests ≤ places
  refused : ∀ span, s.dropped [.report span] = if places ≤ s.spans + s.requests then 1 else 0
  queued : ∀ span, (s.step (.report span)).delivery.reporter.queue =
    if places ≤ s.spans + s.requests then s.delivery.reporter.queue
    else s.delivery.reporter.queue ++ [.append span]
  shown : (s.step .flush).delivery.host.tally.get .reporterQueueLength = s.spans + s.requests
  overflow : ∀ (calls : List Event) (excess : Nat), (∀ call ∈ calls, call.isCall = true) →
    calls.countP Event.isReport = places - (s.spans + s.requests) + excess →
    s.dropped calls =
      excess + (calls.take (places - (s.spans + s.requests))).countP Event.isFlush

private theorem sharesPlaces_of_isOpen (isOpen : s.delivery.reporter.IsOpen places) :
    s.SharesPlaces places where
  within := by
    have length := length_eq_spans_add_requests isOpen.unasked
    exact length ▸ isOpen.within
  refused := dropped_report isOpen
  queued span := by
    show (s.delivery.reporter.offer span s.delivery.host).1.queue = _
    rw [RemoteReporter.offer_reporter]
    unfold RemoteReporter.asked
    simp only [refuses_iff isOpen]
    split <;> rfl
  shown := (tally_flush isOpen).2
  overflow calls excess called reported := by
    let free := places - (s.spans + s.requests)
    have total := countP_calls called
    have enough : free ≤ calls.length := by omega
    have taken := countP_calls fun call m => called call (List.mem_of_mem_take (i := free) m)
    have parts : (calls.take free).countP Event.isReport + (calls.drop free).countP Event.isReport =
        calls.countP Event.isReport := by
      rw [← List.countP_append, List.take_append_drop]
    rw [List.length_take_of_le enough] at taken
    rw [dropped_calls isOpen called]
    show ((calls.drop free).countP _ : Int) = excess + ((calls.take free).countP _ : Nat)
    omega

/-- Whatever the callers, the worker and the sender of an open reporter did, its queue holds spans
and requests to flush, which take its places together. Where no request waits, which is so in every
run without requests, a span is refused if and only if the spans take all places, a held worker
costs the spans that go beyond the free places, and the gauge shows the spans. -/
theorem sharesPlaces_run {r : RemoteReporter} (fresh : r.IsFresh)
    (size : r.maxQueueSize = .integer places) (metered : r.metered = true) (h : Host)
    {events : List Event} (unclosed : ∀ p, .close p ∉ events) :
    let s := Handling.run { delivery := Delivery.start r h } events
    s.SharesPlaces places ∧
      (events.countP Event.isFlush = 0 → s.requests = 0) ∧
      (s.requests = 0 → (∀ span, s.dropped [.report span] = if places ≤ s.spans then 1 else 0) ∧
        (∀ spans : List Span, s.dropped (spans.map .report) =
          (spans.length - (places - s.spans) : Nat)) ∧
        (s.step .flush).delivery.host.tally.get .reporterQueueLength = s.spans) := by
  intro s
  have isOpen : s.delivery.reporter.IsOpen places :=
    isOpen_run (RemoteReporter.isOpen_of_isFresh fresh size metered) unclosed
  refine ⟨sharesPlaces_of_isOpen isOpen, fun quiet => ?_,
    fun alone => ⟨fun span => ?_, fun spans => ?_, ?_⟩⟩
  · have few := requests_run { delivery := Delivery.start r h } unclosed
    have none : Handling.requests { delivery := Delivery.start r h } = 0 := by
      show r.queue.countP Command.isFlush = 0
      rw [fresh.queue]
      rfl
    rw [none, quiet] at few
    exact Nat.le_zero.mp few
  · rw [dropped_report isOpen, alone, Nat.add_zero]
  · have called : ∀ call ∈ spans.map Event.report, call.isCall = true :=
      List.forall_mem_map.mpr fun _ _ => rfl
    have reports : ∀ call ∈ (spans.drop (places - s.spans)).map Event.report,
        call.isReport = true := List.forall_mem_map.mpr fun _ _ => rfl
    rw [dropped_calls isOpen called, alone, Nat.add_zero, ← List.map_drop,
      List.countP_eq_length.mpr reports, List.length_map, List.length_drop]
  · rw [(tally_flush isOpen).2, alone, Nat.cast_zero, add_zero]

/-- A worker that is held in a flush, with two more requests in a queue of two places: the gauge
shows them, a span finds no place though none waits, and so do two spans of three for which one
request left a place. -/
theorem refused_for_requests :
    let reply : Reply := { answer := .ok 0, sender := .noop, notices := [], network := {} }
    let span : Span := { traceId := 7, spanId := 1, operation := .text "a" }
    let s : Handling := { delivery := Delivery.start (.scripted 10 2 []) {} }
    let worker : List Event := List.replicate 4 (.work reply)
    let held := s.run (.flush :: worker)
    let full := s.run (.flush :: worker ++ [.flush, .flush])
    full.spans = 0 ∧ full.dropped [.report span] = 1 ∧
      (full.step .flush).delivery.host.tally.get .reporterQueueLength = 2 ∧
      held.dropped [.flush, .report span, .report span, .report span] = 2 ∧
      held.dropped [.report span, .report span, .report span, .flush] = 1 := by
  intro reply span s worker held full
  have fresh := RemoteReporter.isFresh_scripted 10 2 []
  have size : (RemoteReporter.scripted 10 2 []).maxQueueSize = .integer (2 : Nat) := rfl
  have unclosed : ∀ p, Event.close p ∉ .flush :: worker ++ [.flush, .flush] := by simp [worker]
  have early : ∀ p, Event.close p ∉ .flush :: worker := by simp [worker]
  have shares : full.SharesPlaces 2 := (sharesPlaces_run fresh size rfl {} unclosed).1
  have free : held.SharesPlaces 2 := (sharesPlaces_run fresh size rfl {} early).1
  have spans : full.spans = 0 := by decide +kernel
  have requests : full.requests = 2 := by decide +kernel
  have none : held.spans + held.requests = 0 := by decide +kernel
  refine ⟨spans, ?_, ?_, ?_, ?_⟩
  · rw [shares.refused span, spans, requests]
    rfl
  · rw [shares.shown, spans, requests]
    rfl
  · rw [free.overflow [.flush, .report span, .report span, .report span] 1 (by decide) rfl, none]
    rfl
  · rw [free.overflow [.report span, .report span, .report span, .flush] 1 (by decide) rfl, none]
    rfl

end Handling

end Tracing
