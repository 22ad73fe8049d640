import Tracing.Proofs.Delivery.Transition
/-!
Where the spans are. Every reported span is counted as sent, failed or dropped, or it is in one of
the places that a span can be in, as long as the transport names no loss but the length of a batch.
A queue that is given up under a worker with a span in hand can cost that one span uncounted.
-/

set_option autoImplicit false
set_option relaxedAutoImplicit false

namespace Tracing

open Metrics (Instrument)

namespace Delivery

/-- Where a transport names the loss of a batch, it is the length of the batch. The batches meet
the outcomes in store in order. -/
def CountsLosses (store : List (Option ScriptedFailure)) (answered : List (List Span)) : Prop :=
  ∀ (i : Nat) (batch : List Span) (loss : Int) (message : String), answered[i]? = some batch →
    store[i]? = some (some (.refused loss message)) → loss = batch.length

private theorem CountsLosses.of_append {store : List (Option ScriptedFailure)}
    {before after : List (List Span)} (h : CountsLosses store (before ++ after)) :
    CountsLosses store before := by
  intro i batch loss message answered
  refine h i batch loss message ?_
  rw [List.getElem?_append_left (List.getElem?_eq_some_iff.mp answered).1]
  exact answered

namespace View

/-- The worker sends with an empty buffer, and a closing call that empties the queue has given it
up or finds the worker ended. -/
structure Coherent (v : View) : Prop where
  sending : ∀ kind batch, v.worker = .sending kind batch → v.buffer = []
  given : v.abandoned = true → v.closing.empties = true
  stopped : v.closing.empties = true → v.abandoned = true ∨ v.worker = .ended
  emptied : v.closing.hasEmptied = true → queuedSpans v.queue = []

/-- Spans that the worker had in hand when the queue was given up: there is one at most, and none
unless the closing call overtook the worker. -/
structure Strays (v : View) : Prop where
  ended : v.forsaken ≠ [] → v.worker = .ended ∧ v.abandoned = true
  alone : v.forsaken.length + (queuedSpans v.worker.inHand).length ≤ 1
  parted : v.closing.hasParted = true →
    v.buffer.length + v.forsaken.length + (queuedSpans v.worker.inHand).length ≤ 1
  bare : v.overtaken = false → v.abandoned = true → v.worker.isTaking v.queue = false
  none : v.overtaken = false → v.forsaken = []
  clear : v.overtaken = false → v.closing.hasParted = true → v.buffer = []

/-- The batches that were answered used up the first outcomes. -/
def Tracks (store : List (Option ScriptedFailure)) (v : View) : Prop :=
  v.outcomes = store.drop v.answered.length

/-- The spans that are in no counter. -/
def outstanding (v : View) : Nat :=
  (queuedSpans v.queue).length + v.buffer.length + v.worker.inFlight.length +
    v.closing.inFlight.length + (queuedSpans v.worker.inHand).length + v.closing.thrown +
      v.forsaken.length

/-- Reported spans are counted or outstanding. -/
def Balanced (base : Int) (v : View) : Prop :=
  v.settled + v.dropped + v.outstanding = base + v.reported

variable {v w : View} {size : Number} {metered : Bool} {move : Move}
  {store : List (Option ScriptedFailure)}

@[simp] theorem inFlight_flushed (kind : CommandKind) :
    (v.flushed kind).worker.inFlight = v.buffer := by
  by_cases empty : v.buffer = []
  · simp [flushed, empty]
  · simp [flushed, empty, Worker.inFlight]

@[simp] theorem inHand_flushed (kind : CommandKind) : (v.flushed kind).worker.inHand = [] := by
  by_cases empty : v.buffer = []
  · simp [flushed, empty]
  · simp [flushed, empty, Worker.inHand]

private theorem flushed_ne_waiting (kind : CommandKind) : (v.flushed kind).worker ≠ .waiting := by
  by_cases empty : v.buffer = []
  · simp [flushed, empty]
  · simp [flushed, empty]

theorem Coherent.not_abandoned (h : v.Coherent) (before : v.closing.empties = false) :
    ¬ v.abandoned = true := by
  intro given
  have := h.given given
  rw [before] at this
  cases this

/-- A closing call that empties the queue of a worker at work has given it up. -/
theorem Coherent.abandoned (h : v.Coherent) (alive : v.worker ≠ .ended)
    (empties : v.closing.empties = true) : v.abandoned = true :=
  (h.stopped empties).resolve_right alive

private theorem Coherent.turn (h : v.Coherent) (alive : v.worker ≠ .ended)
    (closing : w.closing = v.closing) (abandoned : w.abandoned = v.abandoned)
    (queue : queuedSpans v.queue = [] → queuedSpans w.queue = [])
    (sending : ∀ kind batch, w.worker = .sending kind batch → w.buffer = []) : w.Coherent := by
  refine ⟨sending, ?_, ?_, ?_⟩
  · rw [abandoned, closing]
    exact h.given
  · rw [abandoned, closing]
    exact fun empties => .inl (h.abandoned alive empties)
  · rw [closing]
    exact fun emptied => queue (h.emptied emptied)

theorem Coherent.step (h : v.Coherent) (t : Transition size metered move v w) : w.Coherent := by
  have before (late : v.closing.empties = false) {P : Prop} : v.abandoned = true → P :=
    fun given => absurd given (h.not_abandoned late)
  cases t with
  | still => exact h
  | refuse => exact { h with }
  | accept _ begun | ask begun =>
    exact { h with emptied := fun emptied => by simp [begun, Closing.hasEmptied] at emptied }
  | take command rest worker queue =>
    refine h.turn (by simp [worker]) rfl rfl (fun none => ?_) (fun _ _ e => by cases e)
    rw [queue, queuedSpans_cons] at none
    exact (List.append_eq_nil_iff.mp none).2
  | look worker | stop worker | bind _ worker | quit _ worker | gather _ _ worker =>
    exact h.turn (by simp [worker]) rfl rfl id (fun _ _ e => by cases e)
  | flush command worker => exact h.turn (by simp [worker]) rfl rfl id (fun _ _ _ => rfl)
  | flushDue due worker => exact h.turn (by simp [worker]) rfl rfl id (fun _ _ _ => rfl)
  | keep worker => exact h.turn (by simp [worker]) rfl rfl id (fun _ _ e => by cases e)
  | land kind batch amount worker =>
    exact h.turn (by simp [worker]) rfl rfl id
      fun _ _ e => absurd e (Worker.after_ne_sending _ _ _)
  | die lost =>
    obtain ⟨_, kind, batch, _, _, worker, _⟩ := lost
    exact h.turn (by simp [worker]) rfl rfl id (fun _ _ e => by cases e)
  | pass passes =>
    obtain ⟨early, early'⟩ := passes.early
    exact ⟨h.sending, before early, fun empties => absurd empties (by simp [early']),
      fun emptied => absurd (Closing.empties_of_hasEmptied emptied) (by simp [early'])⟩
  | request entering =>
    exact ⟨h.sending, before (by rw [entering]; rfl), (fun e => by cases e), (fun e => by cases e)⟩
  | finish waiting worker =>
    exact ⟨h.sending, fun _ => rfl, fun _ => .inr worker, (fun e => by cases e)⟩
  | resign => exact ⟨h.sending, fun _ => rfl, fun _ => .inl rfl, (fun e => by cases e)⟩
  | throw command rest draining =>
    refine ⟨h.sending, fun _ => rfl, fun _ => h.stopped (by rw [draining]; rfl),
      (fun e => by cases e)⟩
  | book draining queue =>
    rename_i given thrown
    have empties := h.stopped (by rw [draining]; rfl)
    refine ⟨h.sending, fun _ => by cases given <;> rfl, fun _ => empties, fun _ => ?_⟩
    rw [queue]
    rfl
  | wake waking woken =>
    refine ⟨h.sending, fun _ => rfl, fun _ => h.stopped (by rw [waking]; rfl), fun _ => ?_⟩
    have none := h.emptied (by rw [waking]; rfl)
    rcases woken with rfl | rfl
    · exact none
    · simp [none, Command.span?]
  | part leaving =>
    exact ⟨fun _ _ _ => rfl, fun _ => rfl, fun _ => h.stopped (by rw [leaving]; rfl),
      fun _ => h.emptied (by rw [leaving]; rfl)⟩
  | release batch amount releasing =>
    exact ⟨h.sending, fun _ => rfl, fun _ => h.stopped (by rw [releasing]; rfl),
      fun _ => h.emptied (by rw [releasing]; rfl)⟩

theorem Strays.forsaken_eq_nil (h : v.Strays) (alive : v.worker ≠ .ended) : v.forsaken = [] := by
  by_contra lost
  exact alive (h.ended lost).1

private theorem isTaking_mono {worker : Worker} {before after : List Command}
    (fewer : queuedSpans before = [] → queuedSpans after = [])
    (idle : worker.isTaking before = false) : worker.isTaking after = false := by
  cases worker with
  | waiting =>
    have none : queuedSpans before = [] := by simpa [Worker.isTaking] using idle
    simp [Worker.isTaking, fewer none]
  | looking | holding | bound | appending | sending | ended => exact idle

private theorem Strays.turn (h : v.Strays) (alive : v.worker ≠ .ended)
    (closing : w.closing = v.closing)
    (overtaken : w.overtaken = v.overtaken) (forsaken : w.forsaken = v.forsaken)
    (buffer : w.buffer = v.buffer ∨ w.buffer = []) (hand : w.worker.inHand = [])
    (other : w.abandoned = true → w.worker ≠ .waiting) : w.Strays := by
  have none := h.forsaken_eq_nil alive
  refine ⟨fun lost => absurd (forsaken.trans none) lost, by simp [forsaken, none, hand],
    fun parted => ?_, fun _ given => ?_, fun _ => forsaken.trans none, fun kept parted => ?_⟩
  · have few := h.parted (closing ▸ parted)
    rcases buffer with same | empty
    · simp only [same, forsaken, none, hand, queuedSpans_nil, List.length_nil]
      omega
    · simp [empty, forsaken, none, hand]
  · have other := other given
    cases hw : w.worker with
    | waiting => exact absurd hw other
    | looking | holding | bound | appending | sending | ended =>
      rw [hw] at hand
      simp [Worker.isTaking, hand]
  · rcases buffer with same | empty
    · exact same.trans (h.clear (overtaken ▸ kept) (closing ▸ parted))
    · exact empty

private theorem Strays.proceed (h : v.Strays) (coherent : v.Coherent)
    (t : Transition size metered .proceed v w) : w.Strays := by
  cases t with
  | still => exact h
  | look worker kept =>
    exact h.turn (by simp [worker]) rfl rfl rfl (.inl rfl) rfl
      fun given => by simp [kept] at given
  | stop worker | keep worker =>
    exact h.turn (by simp [worker]) rfl rfl rfl (.inl rfl) rfl fun _ e => by cases e
  | flush command worker =>
    exact h.turn (by simp [worker]) rfl rfl rfl (.inr rfl) (inHand_flushed _)
      fun _ => flushed_ne_waiting _
  | flushDue due worker =>
    exact h.turn (by simp [worker]) rfl rfl rfl (.inr rfl) (inHand_flushed _)
      fun _ => flushed_ne_waiting _
  | land kind batch amount worker =>
    exact h.turn (by simp [worker]) rfl rfl rfl (.inl rfl) (Worker.inHand_after _)
      fun _ => Worker.after_ne_waiting _
  | die lost =>
    obtain ⟨_, kind, batch, _, _, worker, _⟩ := lost
    exact h.turn (by simp [worker]) rfl rfl rfl (.inl rfl) rfl fun _ e => by cases e
  | bind command worker kept =>
    have alone := h.alone
    have parted := h.parted
    rw [worker] at alone parted
    exact { h with
      ended := fun lost => absurd (h.forsaken_eq_nil (by simp [worker])) lost
      alone := alone
      parted := parted
      bare := fun _ given => by simp [kept] at given }
  | quit command worker given =>
    have none := h.forsaken_eq_nil (by simp [worker])
    have parted := h.parted
    have bare := h.bare
    rw [worker] at parted bare
    refine ⟨fun _ => ⟨rfl, given⟩, ?_, fun late => ?_, fun _ _ => rfl, fun kept => ?_, h.clear⟩
    · simp [Worker.inHand, none]
    · have few := parted late
      simp only [Worker.inHand, none, List.nil_append, queuedSpans_nil, List.length_nil] at few ⊢
      omega
    · have idle := bare kept given
      have empty : queuedSpans [command] = [] := by
        simpa [Worker.isTaking, Worker.inHand] using idle
      rw [none, empty]
      rfl
  | gather span due worker =>
    have alive : v.worker ≠ .ended := by simp [worker]
    have none := h.forsaken_eq_nil alive
    refine ⟨fun lost => absurd none lost, by simp [none, Worker.inHand], fun late => ?_,
      fun _ _ => rfl, h.none, fun kept late => ?_⟩
    · have few := h.parted late
      rw [worker] at few
      simp only [Worker.inHand, queuedSpans_cons, queuedSpans_nil, Command.span?,
        Option.toList_some, List.length_append, List.length_cons, List.length_nil] at few ⊢
      omega
    · -- a queue given up under a worker with a span in hand was overtaken
      have empties := Closing.empties_of_hasEmptied (Closing.hasEmptied_of_hasParted late)
      have idle := h.bare kept (coherent.abandoned alive empties)
      rw [worker] at idle
      cases idle

private theorem Strays.close (h : v.Strays) (coherent : v.Coherent)
    (t : Transition size metered .close v w) : w.Strays := by
  have unparted {c : Closing} {P : Prop} (before : c.hasParted = false) :
      c.hasParted = true → P := fun parted => by simp [before] at parted
  cases t with
  | still => exact h
  | pass passes =>
    have before := passes.early.2
    have late {c : Closing} {P : Prop} (early : c.empties = false) (parted : c.hasParted = true) :
        P := by
      have := Closing.empties_of_hasEmptied (Closing.hasEmptied_of_hasParted parted)
      simp [early] at this
    exact { h with parted := late before, clear := fun _ => late before }
  | request entering =>
    have open_ := coherent.not_abandoned (by rw [entering]; rfl)
    exact { h with
      parted := unparted rfl
      bare := fun _ given => absurd given open_
      clear := fun _ => unparted rfl }
  | finish => exact { h with parted := unparted rfl, clear := fun _ => unparted rfl }
  | resign resigning =>
    have open_ := coherent.not_abandoned (by rw [resigning]; rfl)
    have none : v.forsaken = [] := by
      by_contra lost
      exact open_ (h.ended lost).2
    exact {
      ended := fun lost => absurd none lost
      alone := h.alone
      parted := unparted rfl
      bare := fun kept _ => kept
      none := fun _ => none
      clear := fun _ => unparted rfl }
  | throw command rest draining queue =>
    refine { h with
      parted := unparted rfl
      bare := fun kept given => ?_
      clear := fun _ => unparted rfl }
    refine isTaking_mono (fun empty => ?_) (h.bare kept given)
    rw [queue, queuedSpans_cons] at empty
    exact (List.append_eq_nil_iff.mp empty).2
  | book draining queue =>
    rename_i given thrown
    have before : (if given then Closing.waking else .leaving).hasParted = false := by
      cases given <;> rfl
    exact { h with parted := unparted before, clear := fun _ => unparted before }
  | wake waking woken =>
    refine { h with
      parted := unparted rfl
      bare := fun kept given => ?_
      clear := fun _ => unparted rfl }
    refine isTaking_mono (fun empty => ?_) (h.bare kept given)
    rcases woken with rfl | rfl
    · exact empty
    · simp [empty, Command.span?]
  | part leaving =>
    exact { h with parted := fun _ => by simpa using h.alone, clear := fun _ _ => rfl }
  | release batch amount releasing =>
    have late : v.closing.hasParted = true := by rw [releasing]; rfl
    exact { h with parted := fun _ => h.parted late, clear := fun kept _ => h.clear kept late }

theorem Strays.step (h : v.Strays) (coherent : v.Coherent)
    (t : Transition size metered move v w) : w.Strays := by
  have open_ (begun : v.closing = .notBegun) : ¬ v.abandoned = true :=
    coherent.not_abandoned (by rw [begun]; rfl)
  have unparted {P : Prop} (begun : v.closing = .notBegun) : v.closing.hasParted = true → P :=
    fun parted => by simp [begun, Closing.hasParted] at parted
  cases move with
  | report =>
    cases t with
    | still => exact h
    | refuse => exact { h with }
    | accept _ begun =>
      exact { h with
        parted := unparted begun
        bare := fun _ given => absurd given (open_ begun)
        clear := fun _ => unparted begun }
  | flush =>
    cases t with
    | still => exact h
    | ask begun =>
      exact { h with
        parted := unparted begun
        bare := fun _ given => absurd given (open_ begun)
        clear := fun _ => unparted begun }
  | take =>
    cases t with
    | still => exact h
    | take command rest worker queue =>
      have none := h.forsaken_eq_nil (by simp [worker])
      have next (empty : queuedSpans v.queue = []) : queuedSpans [command] = [] := by
        rw [queue, queuedSpans_cons] at empty
        simp [(List.append_eq_nil_iff.mp empty).1]
      refine ⟨fun lost => absurd none lost, ?_, fun parted => ?_, fun kept given => ?_, h.none,
        h.clear⟩
      · cases command <;> simp [none, Worker.inHand, Command.span?]
      · have few := h.parted parted
        have empty := coherent.emptied (Closing.hasEmptied_of_hasParted parted)
        simp only [Worker.inHand, next empty, List.length_nil]
        omega
      · have idle := h.bare kept given
        rw [worker] at idle
        have empty : queuedSpans v.queue = [] := by simpa [Worker.isTaking] using idle
        simp [Worker.isTaking, Worker.inHand, next empty]
  | proceed => exact h.proceed coherent t
  | close => exact h.close coherent t

private theorem Tracks.answer (h : v.Tracks store) (batches : List (List Span)) :
    v.outcomes.drop batches.length = store.drop (v.answered ++ batches).length := by
  rw [h, List.drop_drop, List.length_append]

private theorem Tracks.step (h : v.Tracks store) (t : Transition size metered move v w) :
    w.Tracks store := by
  cases t with
  | land kind batch => exact h.answer [batch]
  | die => exact h.answer [v.worker.inFlight]
  | release batch => exact h.answer (batchOf batch)
  | still | refuse | accept | ask | take | look | stop | bind | quit | gather | flush | keep
  | flushDue | pass | request | finish | resign | throw | book | wake | part => exact h

private theorem Tracks.fair (h : v.Tracks store) {batch : List Span} {after : List (List Span)}
    (honest : CountsLosses store (v.answered ++ batch :: after)) : v.SendsFairly batch := by
  intro loss message next
  refine honest v.answered.length batch loss message (by simp) ?_
  rwa [h, List.head?_drop] at next

@[simp] theorem weight_true (n : Int) : weight true n = n := rfl

private theorem Balanced.flushed {base : Int} (h : v.Balanced base)
    (idle : v.worker.inFlight = []) (hand : queuedSpans v.worker.inHand = []) (kind : CommandKind) :
    (v.flushed kind).Balanced base := by
  have buffer : (v.flushed kind).buffer = [] := rfl
  unfold Balanced outstanding at h ⊢
  rw [idle, hand] at h
  rw [inFlight_flushed, inHand_flushed, buffer]
  simp only [queuedSpans_nil, List.length_nil] at h ⊢
  change v.settled + v.dropped + ((queuedSpans v.queue).length + 0 + v.buffer.length +
    v.closing.inFlight.length + 0 + v.closing.thrown + v.forsaken.length : Nat) = base + v.reported
  omega

private theorem Balanced.proceed {base : Int} (h : v.Balanced base) (tracks : v.Tracks store)
    (honest : CountsLosses store w.answered) (t : Transition size true .proceed v w) :
    w.Balanced base := by
  have h' := h
  simp only [Balanced, outstanding] at h'
  cases t with
  | still => exact h
  | look worker | stop worker | bind _ worker =>
    rw [worker] at h'
    exact h'
  | quit command worker =>
    rw [worker] at h'
    simp only [Balanced, outstanding, Worker.inHand, Worker.inFlight, List.length_append,
      queuedSpans_nil, List.length_nil] at h' ⊢
    omega
  | gather span due worker =>
    rw [worker] at h'
    simp only [Balanced, outstanding, Worker.inHand, Worker.inFlight, List.length_append,
      queuedSpans_cons, queuedSpans_nil, Command.span?, Option.toList_some, List.length_cons,
      List.length_nil] at h' ⊢
    omega
  | flush command worker carries =>
    refine h.flushed (by rw [worker]; rfl) ?_ command.kind
    simp [worker, Worker.inHand, carries]
  | keep worker =>
    rw [worker] at h'
    exact h'
  | flushDue due worker =>
    exact h.flushed (by rw [worker]; rfl) (by rw [worker]; rfl) .append
  | land kind batch amount worker fair =>
    rw [worker] at h'
    have lands := fair (tracks.fair honest)
    simp only [Balanced, outstanding, Worker.inFlight_after, Worker.inHand_after, weight_true,
      lands]
    simp only [Worker.inFlight, Worker.inHand, queuedSpans_nil, List.length_nil] at h' ⊢
    omega
  | die lost =>
    obtain ⟨_, kind, batch, loss, message, worker, _, next, below⟩ := lost
    rw [worker] at honest
    have := tracks.fair honest loss message next
    omega

private theorem Balanced.close {base : Int} (h : v.Balanced base) (tracks : v.Tracks store)
    (honest : CountsLosses store w.answered) (t : Transition size true .close v w) :
    w.Balanced base := by
  have h' := h
  simp only [Balanced, outstanding] at h'
  cases t with
  | still => exact h
  | pass passes =>
    obtain ⟨early, early'⟩ := passes.early
    rw [Closing.inFlight_of_early early, Closing.thrown_of_early early] at h'
    simp only [Balanced, outstanding, Closing.inFlight_of_early early',
      Closing.thrown_of_early early']
    exact h'
  | request entering =>
    rw [entering] at h'
    simp only [Balanced, outstanding, queuedSpans_append, queuedSpans_cons, queuedSpans_nil,
      Command.span?, Option.toList_none, List.append_nil]
    exact h'
  | finish waiting =>
    rw [waiting] at h'
    exact h'
  | resign resigning =>
    rw [resigning] at h'
    exact h'
  | throw command rest draining queue =>
    rw [draining, queue] at h'
    simp only [Balanced, outstanding, Closing.inFlight, Closing.thrown, queuedSpans_cons,
      queuedSpans_nil, List.append_nil, List.length_append, List.length_nil] at h' ⊢
    omega
  | book draining queue =>
    rename_i given thrown
    have next : (if given then Closing.waking else .leaving).inFlight = [] ∧
        (if given then Closing.waking else .leaving).thrown = 0 := by
      cases given <;> exact ⟨rfl, rfl⟩
    rw [draining] at h'
    simp only [Balanced, outstanding, next, weight_true]
    simp only [Closing.inFlight, Closing.thrown, List.length_nil] at h' ⊢
    omega
  | wake waking woken =>
    rw [waking] at h'
    rcases woken with rfl | rfl
    · exact h'
    · simp only [Balanced, outstanding, queuedSpans_append, queuedSpans_cons, queuedSpans_nil,
        Command.span?, Option.toList_none, List.append_nil]
      exact h'
  | part leaving =>
    rw [leaving] at h'
    simp only [Balanced, outstanding, Closing.inFlight, Closing.thrown, List.length_nil] at h' ⊢
    omega
  | release batch amount releasing none fair =>
    have whole : amount = batch.length := by
      by_cases empty : batch = []
      · simp [none empty, empty]
      · simp only [batchOf, empty, if_false] at honest
        exact fair (tracks.fair honest)
    rw [releasing] at h'
    simp only [Balanced, outstanding, Closing.inFlight, Closing.thrown, weight_true, whole,
      List.length_nil] at h' ⊢
    omega

/-- Counting what a transport names moves spans from one place to another, as long as every loss is
the length of its batch. -/
private theorem Balanced.step {base : Int} (h : v.Balanced base) (tracks : v.Tracks store)
    (honest : CountsLosses store w.answered) (t : Transition size true move v w) :
    w.Balanced base := by
  have h' := h
  simp only [Balanced, outstanding] at h'
  cases move with
  | report =>
    cases t with
    | still => exact h
    | refuse =>
      simp only [Balanced, outstanding, weight_true]
      omega
    | accept =>
      simp only [Balanced, outstanding, queuedSpans_append, queuedSpans_cons, queuedSpans_nil,
        Command.span?, Option.toList_some, List.length_append, List.length_cons, List.length_nil]
      omega
  | flush =>
    cases t with
    | still => exact h
    | ask =>
      simp only [Balanced, outstanding, queuedSpans_append, queuedSpans_cons, queuedSpans_nil,
        Command.span?, Option.toList_none, List.append_nil]
      exact h'
  | take =>
    cases t with
    | still => exact h
    | take command rest worker queue =>
      rw [queue, worker] at h'
      simp only [Balanced, outstanding, Worker.inHand, Worker.inFlight, queuedSpans_cons,
        queuedSpans_nil, List.append_nil, List.length_append, List.length_nil] at h' ⊢
      omega
  | proceed => exact h.proceed tracks honest t
  | close => exact h.close tracks honest t

private theorem answered_step (t : Transition size metered move v w) :
    ∃ more, w.answered = v.answered ++ more := by
  cases t with
  | land kind batch => exact ⟨[batch], rfl⟩
  | die => exact ⟨[v.worker.inFlight], rfl⟩
  | release batch => exact ⟨batchOf batch, rfl⟩
  | still | refuse | accept | ask | take | look | stop | bind | quit | gather | flush | keep
  | flushDue | pass | request | finish | resign | throw | book | wake | part =>
    exact ⟨[], (List.append_nil _).symm⟩

/-- What is known of the spans after every move. -/
structure Accounted (store : List (Option ScriptedFailure)) (base : Int) (v : View) : Prop where
  coherent : v.Coherent
  strays : v.Strays
  tracks : v.Tracks store
  balanced : CountsLosses store v.answered → v.Balanced base

theorem Accounted.step {base : Int} (h : v.Accounted store base)
    (t : Transition size true move v w) : w.Accounted store base := by
  refine ⟨h.coherent.step t, h.strays.step h.coherent t, h.tracks.step t, fun honest => ?_⟩
  obtain ⟨more, answered⟩ := answered_step t
  exact (h.balanced (answered ▸ honest).of_append).step h.tracks honest t

/-- At the end every reported span is counted, but for one that the closing call overtook. -/
theorem Accounted.ended {base : Int} (h : v.Accounted store base)
    (honest : CountsLosses store v.answered) (returned : v.closing = .returned)
    (ended : v.worker = .ended) :
    ∃ strays ≤ 1, base + v.reported = v.settled + v.dropped + (strays : Nat) ∧
      (v.overtaken = false → strays = 0) := by
  have parted : v.closing.hasParted = true := by rw [returned]; rfl
  have queue := h.coherent.emptied (Closing.hasEmptied_of_hasParted parted)
  have few := h.strays.parted parted
  have balance := h.balanced honest
  refine ⟨v.buffer.length + v.forsaken.length, by omega, ?_, fun kept => ?_⟩
  · simp only [Balanced, outstanding, queue, returned, ended, Worker.inFlight, Worker.inHand,
      Closing.inFlight, Closing.thrown, queuedSpans_nil, List.length_nil] at balance
    omega
  · simp [h.strays.none kept, h.strays.clear kept parted]

end View

theorem coherent_start {size : Number} {transport : Transport} {reporter : RemoteReporter}
    (created : Sender.create size transport = .ok reporter.sender) (fresh : reporter.IsFresh)
    (host : Host) : (start reporter host).view.Coherent := by
  rw [view_start created fresh]
  constructor <;> simp [Closing.empties, Closing.hasEmptied]

theorem strays_start {size : Number} {transport : Transport} {reporter : RemoteReporter}
    (created : Sender.create size transport = .ok reporter.sender) (fresh : reporter.IsFresh)
    (host : Host) : (start reporter host).view.Strays := by
  rw [view_start created fresh]
  constructor <;> simp [Worker.inHand]

theorem AtRest.inHand_eq_nil {d : Delivery} (rest : d.AtRest) :
    queuedSpans d.reporter.worker.inHand = [] := by
  rcases rest.1 with ⟨waits, -⟩ | ⟨kind, batch, sends⟩ | ended
  · rw [waits]
    rfl
  · rw [sends]
    rfl
  · rw [ended]
    rfl

/-- Whenever a run gives the queue up, the worker waits on an empty queue, is sending or has
ended. -/
def GivesUpAtRest (d : Delivery) (moves : List Move) : Prop :=
  ∀ before after, moves = before ++ .close :: after → (d.run before).closing = .resigning →
    (d.run before).AtRest

def gained (before after : Host) (i : Instrument) : Int :=
  after.tally.get i - before.tally.get i

/-- The worker has taken the second span when the queue is given up, finds that, and ends: the span
is in no counter. -/
example :
    let moves : List Move := [.reportNamed "a", .reportNamed "b", .proceed, .take, .proceed,
      .proceed, .proceed, .close, .close, .close, .close, .proceed, .proceed, .take, .close,
      .proceed, .close, .close, .close, .close, .close]
    let d := (start (.scripted 1 2 []) {}).run moves
    d.closing = .returned ∧ d.reporter.worker = .ended ∧ d.overtaken = true ∧
      d.forsaken.length = 1 ∧ moves.countP Move.isReport = 2 ∧
        gained {} d.host .reporterSuccess = 1 ∧ gained {} d.host .reporterFailure = 0 ∧
          gained {} d.host .reporterDropped = 0 :=
  ⟨rfl, rfl, rfl, rfl, rfl, rfl, rfl, rfl⟩

end Delivery

end Tracing
