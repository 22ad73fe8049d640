import Tracing.Proofs.Delivery.Accounting
/-!
Accepted spans are handed to the transport in order, once and in batches of at most the batch size.
A queue that is not given up is worked off before the sender is closed, unless its worker is lost: a
worker does not survive a flush whose transport names a loss below zero.
-/

set_option autoImplicit false
set_option relaxedAutoImplicit false

namespace Tracing

open Metrics (Instrument)

def Move.span? : Move → Option Span
  | report span => some span
  | _ => none

namespace Delivery

/-- The worker is in a flush, or in its last one, whose loss its counter will refuse. -/
def LosesWorker (d : Delivery) : Prop := d.view.LosesWorker d.reporter.metered

def LostWorker (d : Delivery) (moves : List Move) : Prop :=
  ∃ before after, moves = before ++ .proceed :: after ∧ (d.run before).LosesWorker

namespace View

/-- The spans that were thrown out or still wait, in two parts: those thrown out before the worker
took its last command, and those behind it. A span that a worker runs has none of the former. -/
structure Parts (v : View) (before after : List Span) : Prop where
  whole : v.discarded ++ queuedSpans v.queue = before ++ after
  kept : v.abandoned = false → before = []
  bound : ∀ command, v.worker = .bound command → before = []
  fifo : v.handed.flatten ++ v.buffer ++ before ++ (queuedSpans v.worker.inHand ++ v.forsaken) ++
    after = v.accepted

/-- Accepted spans stay in order. Spans are thrown out by a closing call alone, and counted with
those that were never accepted. -/
structure InOrder (metered : Bool) (base : Int) (v : View) : Prop where
  parts : ∃ before after, v.Parts before after
  thrown : v.discarded ≠ [] → v.closing.empties = true
  dropped : v.dropped =
    base + weight metered (v.reported - v.accepted.length + v.discarded.length - v.closing.thrown)

/-- No batch is empty or larger than the batch size, and a buffer that could make one is due. -/
structure Bounded (size : Int) (v : View) : Prop where
  batches : ∀ batch ∈ v.handed, batch ≠ [] ∧ batch.length ≤ size
  buffer : v.buffer.length < size ∨
    v.buffer.length = size ∧ ∃ due, v.worker = .appending due ∧ due ≠ 0

def finishes (v : View) : Prop :=
  .close ∈ v.worker.inHand ∨ ∃ batch, v.worker = .sending .close batch

/-- The command to finish is the last one, and the sender is closed when the worker is done with
it. A worker may end otherwise only by what excuses it. -/
structure Finishing (excuse : Prop) (v : View) : Prop where
  early : v.closing = .notBegun ∨ v.closing = .entering →
    .close ∉ v.queue ∧ ¬ v.finishes ∧ (v.worker = .ended → excuse)
  last : .close ∉ v.queue.dropLast
  closing : v.finishes → v.abandoned = true ∨ v.queue = []
  ended : v.worker = .ended → v.abandoned = true ∨ v.queue = [] ∨ excuse
  giving : v.closing.gives = true → v.abandoned = true
  waking : v.closing = .waking → v.queue = []
  emptied : v.closing.hasEmptied = true → v.abandoned = true ∨ v.queue = []
  parted : v.closing.hasParted = true → v.abandoned = true ∨ v.buffer = []
  excused : v.discarded ≠ [] → v.abandoned = true ∨ excuse
  uncalled : v.closing.hasParted = false → .close ∉ v.calls
  called : v.closing.hasParted = true →
    v.abandoned = true ∨ ∃ earlier, v.calls = earlier ++ [.close] ∧ .close ∉ earlier

variable {v w : View} {size : Number} {metered : Bool} {move : Move}

private theorem flushed_ne_bound (kind : CommandKind) (command : Command) :
    (v.flushed kind).worker ≠ .bound command := by
  by_cases empty : v.buffer = []
  · cases kind <;> simp [flushed, empty, Worker.after]
  · simp [flushed, empty]

private theorem Parts.flushed {before after : List Span} (h : v.Parts before after)
    (hand : queuedSpans v.worker.inHand = []) (kind : CommandKind) :
    (v.flushed kind).Parts before after := by
  refine ⟨h.whole, h.kept, fun _ worker => absurd worker (flushed_ne_bound _ _), ?_⟩
  have fifo := h.fifo
  rw [hand] at fifo
  rw [inHand_flushed]
  change (v.handed ++ batchOf v.buffer).flatten ++ [] ++ before ++ ([] ++ v.forsaken) ++ after =
    v.accepted
  rw [List.flatten_append, flatten_batchOf, List.append_nil]
  exact fifo

private theorem Parts.turn {before after : List Span} (h : v.Parts before after)
    (hand : v.worker.inHand = []) (worker : Worker) (hand' : worker.inHand = []) :
    ({ v with worker } : View).Parts before after := by
  refine ⟨h.whole, h.kept, fun command e => ?_, ?_⟩
  · rw [show worker = .bound command from e] at hand'
    cases hand'
  · have fifo := h.fifo
    rw [hand] at fifo
    rwa [hand']

private theorem InOrder.discarded_eq_nil {base : Int} (h : v.InOrder metered base)
    (early : v.closing.empties = false) : v.discarded = [] := by
  by_contra some
  have := h.thrown some
  rw [early] at this
  cases this

private theorem Parts.take {before after : List Span} (h : v.Parts before after)
    (none : v.forsaken = []) (kept : v.abandoned = false → v.discarded = []) {command : Command}
    {rest : List Command} (worker : v.worker = .waiting) (queue : v.queue = command :: rest) :
    ({ v with queue := rest, worker := .holding command } : View).Parts v.discarded
      (queuedSpans rest) := by
  refine ⟨rfl, kept, (fun _ e => by cases e), ?_⟩
  have fifo := h.fifo
  rw [worker, none] at fifo
  have whole := h.whole
  rw [queue, queuedSpans_cons] at whole
  rw [← fifo]
  simp only [Worker.inHand, none, queuedSpans_cons, queuedSpans_nil, List.append_nil,
    List.append_assoc, ← whole]

private theorem InOrder.proceed {base : Int} (h : v.InOrder metered base) (strays : v.Strays)
    (t : Transition size metered .proceed v w) : w.InOrder metered base := by
  obtain ⟨before, after, parts⟩ := h.parts
  have dropped := h.dropped
  cases t with
  | still => exact h
  | look worker | stop worker | keep worker =>
    exact ⟨⟨before, after, parts.turn (by rw [worker]; rfl) _ rfl⟩, h.thrown, dropped⟩
  | bind command worker kept =>
    refine ⟨⟨before, after, parts.whole, parts.kept, fun _ _ => parts.kept kept, ?_⟩, h.thrown,
      dropped⟩
    have fifo := parts.fifo
    rwa [worker] at fifo
  | quit command worker =>
    have none := strays.forsaken_eq_nil (by simp [worker])
    refine ⟨⟨before, after, parts.whole, parts.kept, (fun _ e => by cases e), ?_⟩, h.thrown,
      dropped⟩
    have fifo := parts.fifo
    rw [worker, none] at fifo
    simpa [Worker.inHand, none] using fifo
  | gather span due worker =>
    have none := strays.forsaken_eq_nil (by simp [worker])
    have first : before = [] := parts.bound _ worker
    subst first
    refine ⟨⟨[], after, parts.whole, fun _ => rfl, fun _ _ => rfl, ?_⟩, h.thrown, dropped⟩
    have fifo := parts.fifo
    rw [worker, none] at fifo
    simpa [Worker.inHand, none, Command.span?] using fifo
  | flush command worker carries =>
    have hand : queuedSpans v.worker.inHand = [] := by simp [worker, Worker.inHand, carries]
    exact ⟨⟨before, after, parts.flushed hand command.kind⟩, h.thrown, dropped⟩
  | flushDue due worker =>
    have hand : queuedSpans v.worker.inHand = [] := by rw [worker]; rfl
    exact ⟨⟨before, after, parts.flushed hand .append⟩, h.thrown, dropped⟩
  | land kind batch amount worker =>
    have turned := parts.turn (by rw [worker]; rfl) _ (Worker.inHand_after kind)
    exact ⟨⟨before, after, { turned with }⟩, h.thrown, dropped⟩
  | die lost =>
    obtain ⟨_, kind, batch, _, _, worker, _⟩ := lost
    have turned := parts.turn (by rw [worker]; rfl) .ended rfl
    exact ⟨⟨before, after, { turned with }⟩, h.thrown, dropped⟩

private theorem InOrder.close {base : Int} (h : v.InOrder metered base) (coherent : v.Coherent)
    (t : Transition size metered .close v w) : w.InOrder metered base := by
  obtain ⟨before, after, parts⟩ := h.parts
  have dropped := h.dropped
  cases t with
  | still => exact h
  | pass passes =>
    obtain ⟨early, early'⟩ := passes.early
    refine ⟨⟨before, after, { parts with }⟩,
      fun some => absurd (h.discarded_eq_nil early) some, ?_⟩
    rw [Closing.thrown_of_early early] at dropped
    rwa [Closing.thrown_of_early early']
  | request entering =>
    refine ⟨⟨before, after, ?_, parts.kept, parts.bound, parts.fifo⟩,
      fun some => absurd (h.discarded_eq_nil (by rw [entering]; rfl)) some, ?_⟩
    · simpa [Command.span?] using parts.whole
    · rwa [entering] at dropped
  | finish waiting =>
    refine ⟨⟨before, after, { parts with }⟩, fun _ => rfl, ?_⟩
    rwa [waiting] at dropped
  | resign resigning =>
    have early : v.closing.empties = false := by rw [resigning]; rfl
    have none : before = [] := parts.kept (by simpa using coherent.not_abandoned early)
    refine ⟨⟨before, after, parts.whole, fun _ => none, fun _ _ => none, parts.fifo⟩,
      fun _ => rfl, ?_⟩
    rwa [resigning] at dropped
  | throw command rest draining queue =>
    refine ⟨⟨before, after, ?_, parts.kept, parts.bound, parts.fifo⟩, fun _ => rfl, ?_⟩
    · have whole := parts.whole
      rw [queue, queuedSpans_cons] at whole
      simpa using whole
    · rw [draining] at dropped
      cases metered <;> simp [weight, Closing.thrown] at dropped ⊢ <;> omega
  | book draining queue =>
    rename_i given thrown
    refine ⟨⟨before, after, { parts with }⟩, fun _ => ?_, ?_⟩
    · cases given <;> rfl
    · have next : (if given then Closing.waking else .leaving).thrown = 0 := by
        cases given <;> rfl
      rw [draining] at dropped
      simp only [next]
      cases metered <;> simp [weight, Closing.thrown] at dropped ⊢ <;> omega
  | wake waking woken =>
    refine ⟨⟨before, after, ?_, parts.kept, parts.bound, parts.fifo⟩, fun _ => rfl, ?_⟩
    · rcases woken with rfl | rfl
      · exact parts.whole
      · simpa [Command.span?] using parts.whole
    · rwa [waking] at dropped
  | part leaving =>
    refine ⟨⟨before, after, parts.whole, parts.kept, parts.bound, ?_⟩, fun _ => rfl, ?_⟩
    · have fifo := parts.fifo
      simpa using fifo
    · rwa [leaving] at dropped
  | release batch amount releasing =>
    refine ⟨⟨before, after, { parts with }⟩, fun _ => rfl, ?_⟩
    rwa [releasing] at dropped

private theorem InOrder.step {base : Int} (h : v.InOrder metered base) (coherent : v.Coherent)
    (strays : v.Strays) (t : Transition size metered move v w) : w.InOrder metered base := by
  obtain ⟨before, after, parts⟩ := h.parts
  have dropped := h.dropped
  cases move with
  | report span =>
    cases t with
    | still => exact h
    | refuse =>
      refine ⟨⟨before, after, { parts with }⟩, h.thrown, ?_⟩
      cases metered <;> simp [weight] at dropped ⊢ <;> omega
    | accept _ begun =>
      have early : v.closing.empties = false := by rw [begun]; rfl
      have none : before = [] := parts.kept (by simpa using coherent.not_abandoned early)
      subst none
      refine ⟨⟨[], after ++ [span], ?_, fun _ => rfl, fun _ _ => rfl, ?_⟩, h.thrown, ?_⟩
      · have whole := parts.whole
        simp only [List.nil_append] at whole
        simp [← whole, Command.span?]
      · simp [← parts.fifo]
      · cases metered <;> simp [weight] at dropped ⊢ <;> omega
  | flush =>
    cases t with
    | still => exact h
    | ask =>
      refine ⟨⟨before, after, ?_, parts.kept, parts.bound, parts.fifo⟩, h.thrown, dropped⟩
      simpa [Command.span?] using parts.whole
  | take =>
    cases t with
    | still => exact h
    | take command rest worker queue =>
      have alive : v.worker ≠ .ended := by simp [worker]
      have kept (kept : v.abandoned = false) : v.discarded = [] := by
        by_contra some
        have := coherent.abandoned alive (h.thrown some)
        rw [kept] at this
        cases this
      exact ⟨⟨_, _, parts.take (strays.forsaken_eq_nil alive) kept worker queue⟩, h.thrown, dropped⟩
  | proceed => exact h.proceed strays t
  | close => exact h.close coherent t

private theorem Bounded.flushed {size : Int} (h : v.Bounded size) (positive : 0 < size)
    (kind : CommandKind) : (v.flushed kind).Bounded size := by
  refine ⟨fun batch m => ?_, .inl positive⟩
  rcases List.mem_append.mp m with old | new
  · exact h.batches batch old
  · obtain ⟨rfl, some⟩ := mem_batchOf.mp new
    refine ⟨some, ?_⟩
    rcases h.buffer with below | ⟨full, _⟩
    · exact below.le
    · exact full.le

private theorem Bounded.step {size : Int} (h : v.Bounded size) (positive : 0 < size)
    (t : Transition (.integer size) metered move v w) : w.Bounded size := by
  have below (idle : ∀ due, v.worker = .appending due → due = 0) : v.buffer.length < size := by
    rcases h.buffer with below | ⟨_, due, worker, due_ne⟩
    · exact below
    · exact absurd (idle due worker) due_ne
  cases t with
  | still | refuse | accept | ask | pass | request | finish | resign | throw | book | wake
  | release =>
    exact ⟨h.batches, h.buffer⟩
  | take _ _ worker | look worker | stop worker | bind _ worker | quit _ worker | keep worker
  | land _ _ _ worker =>
    exact ⟨h.batches, .inl (below (by simp [worker]))⟩
  | gather span due worker full =>
    have := below (by simp [worker])
    refine ⟨h.batches, ?_⟩
    rw [Number.le_integer] at full
    simp only [List.length_append, List.length_cons, List.length_nil]
    by_cases due_zero : due = 0
    · left
      have : ¬ (size ≤ (v.buffer.length + 1 : Nat)) := fun le => full.mpr le due_zero
      omega
    · right
      have := full.mp due_zero
      exact ⟨by omega, due, rfl, due_zero⟩
  | flush command => exact h.flushed positive command.kind
  | flushDue => exact h.flushed positive .append
  | die lost =>
    obtain ⟨_, kind, batch, _, _, worker, _⟩ := lost
    exact ⟨h.batches, .inl (below (by simp [worker]))⟩
  | part => exact ⟨(h.flushed positive .close).batches, .inl positive⟩

variable {excuse : Prop}

private theorem Finishing.close_not_mem_tail (h : v.Finishing excuse) {command : Command}
    {rest : List Command} (queue : v.queue = command :: rest) : .close ∉ rest.dropLast := by
  intro m
  refine h.last ?_
  rw [queue]
  cases rest with
  | nil => cases m
  | cons next others => exact List.mem_cons_of_mem _ m

private theorem Finishing.eq_nil_of_close (h : v.Finishing excuse) {rest : List Command}
    (queue : v.queue = .close :: rest) : rest = [] := by
  cases rest with
  | nil => rfl
  | cons next others => exact absurd (List.mem_cons_self ..) (queue ▸ h.last)

private theorem Finishing.enqueue (h : v.Finishing excuse) (begun : v.closing = .notBegun)
    (command : Command) (other : command ≠ .close) :
    ({ v with queue := v.queue ++ [command] } : View).Finishing excuse := by
  obtain ⟨close, finishing, ended⟩ := h.early (.inl begun)
  have emptied : v.closing.hasEmptied = false := by rw [begun]; rfl
  have parted : v.closing.hasParted = false := by rw [begun]; rfl
  refine ⟨fun _ => ⟨?_, finishing, ended⟩, ?_, fun finishes => absurd finishes finishing,
    fun worker => .inr (.inr (ended worker)), h.giving, fun e => ?_, fun e => ?_, h.parted,
    h.excused, h.uncalled, h.called⟩
  · simpa [close] using Ne.symm other
  · simpa using close
  · rw [show v.closing = .waking from e] at begun
    cases begun
  · rw [show v.closing.hasEmptied = true from e] at emptied
    cases emptied

private theorem Finishing.turn (h : v.Finishing excuse) (worker : Worker)
    (finishes : ({ v with worker } : View).finishes → v.finishes)
    (ended : worker = .ended → v.abandoned = true ∨ v.finishes ∨ excuse)
    (coherent : v.Coherent) : ({ v with worker } : View).Finishing excuse := by
  have gone (e : worker = .ended) : v.abandoned = true ∨ v.queue = [] ∨ excuse := by
    rcases ended e with given | finishes | excused
    · exact .inl given
    · exact (h.closing finishes).imp_right .inl
    · exact .inr (.inr excused)
  refine { h with
    early := fun begun =>
      ⟨(h.early begun).1, fun f => (h.early begun).2.1 (finishes f), fun e => ?_⟩
    closing := fun f => h.closing (finishes f)
    ended := gone }
  rcases ended e with given | finishes | excused
  · exact absurd given (coherent.not_abandoned (by rcases begun with e | e <;> rw [e] <;> rfl))
  · exact absurd finishes (h.early begun).2.1
  · exact excused

/-- A worker that holds no command and sends nothing is not about to finish. -/
private theorem Finishing.rest (h : v.Finishing excuse) (worker : Worker)
    (hand : worker.inHand = []) (other : ∀ kind batch, worker ≠ .sending kind batch)
    (ended : worker = .ended → v.abandoned = true ∨ v.finishes ∨ excuse) (coherent : v.Coherent) :
    ({ v with worker } : View).Finishing excuse := by
  refine h.turn worker (fun finishes => ?_) ended coherent
  rcases finishes with holds | ⟨batch, sends⟩
  · rw [show ({ v with worker } : View).worker.inHand = [] from hand] at holds
    cases holds
  · exact absurd sends (other _ _)

private theorem Finishing.flushed (h : v.Finishing excuse) (coherent : v.Coherent)
    (alive : v.worker ≠ .ended) {kind : CommandKind} (finishes : kind = .close → v.finishes) :
    (v.flushed kind).Finishing excuse := by
  have given (parted : v.closing.hasParted = true) : v.abandoned = true :=
    coherent.abandoned alive
      (Closing.empties_of_hasEmptied (Closing.hasEmptied_of_hasParted parted))
  have close_of (f : (v.flushed kind).finishes) : kind = .close := by
    rcases f with m | ⟨batch, sends⟩
    · simp at m
    · by_cases empty : v.buffer = []
      · cases kind <;> simp [View.flushed, empty, Worker.after] at sends
      · simp only [View.flushed, empty, if_false, Worker.sending.injEq] at sends
        exact sends.1
  have ended (e : (v.flushed kind).worker = .ended) : kind = .close := by
    by_cases empty : v.buffer = []
    · cases kind <;> simp [View.flushed, empty, Worker.after] at e ⊢
    · simp [View.flushed, empty] at e
  have turned := h.turn (v.flushed kind).worker
    (fun f => finishes (close_of (f.imp_right id))) (fun e => .inr (.inl (finishes (ended e))))
    coherent
  refine { turned with
    parted := fun _ => .inr rfl
    uncalled := fun parted => ?_
    called := fun parted => .inl (given parted) }
  change .close ∉ v.calls ++ [.flush]
  simpa using h.uncalled parted

private theorem Finishing.proceed (h : v.Finishing excuse) (coherent : v.Coherent)
    (t : Transition size metered .proceed v w) (lost : v.LosesWorker metered → excuse) :
    w.Finishing excuse := by
  cases t with
  | still => exact h
  | look | keep => exact h.rest _ rfl (fun _ _ e => by cases e) (fun e => by cases e) coherent
  | stop _ given =>
    exact h.rest .ended rfl (fun _ _ e => by cases e) (fun _ => .inl given) coherent
  | bind command worker =>
    refine h.turn _ (fun f => ?_) (fun e => by cases e) coherent
    rcases f with m | ⟨_, e⟩
    · left
      rw [worker]
      exact m
    · cases e
  | quit command worker given =>
    have rests := h.rest .ended rfl (fun _ _ e => by cases e) (fun _ => .inl given) coherent
    exact { rests with }
  | gather span due worker =>
    have alive : v.worker ≠ .ended := by simp [worker]
    have given (parted : v.closing.hasParted = true) : v.abandoned = true :=
      coherent.abandoned alive
        (Closing.empties_of_hasEmptied (Closing.hasEmptied_of_hasParted parted))
    have rests := h.rest (.appending due) rfl (fun _ _ e => by cases e) (fun e => by cases e)
      coherent
    exact { rests with
      parted := fun parted => .inl (given parted)
      uncalled := fun parted => by simpa using h.uncalled parted
      called := fun parted => .inl (given parted) }
  | flush command worker carries =>
    refine h.flushed coherent (by simp [worker]) fun kind => .inl ?_
    rw [worker]
    cases command with
    | close => exact List.mem_singleton.mpr rfl
    | append | flush => cases kind
  | flushDue due worker => exact h.flushed coherent (by simp [worker]) fun e => by cases e
  | land kind batch amount worker =>
    have finishing (close : kind = .close) : v.finishes := .inr ⟨batch, close ▸ worker⟩
    have rests := h.rest (.after kind) (Worker.inHand_after kind)
      (fun _ _ e => absurd e (Worker.after_ne_sending _ _ _))
      (fun e => .inr (.inl (finishing (by cases kind <;> simp [Worker.after] at e ⊢)))) coherent
    exact { rests with }
  | die gone =>
    have rests := h.rest .ended rfl (fun _ _ e => by cases e) (fun _ => .inr (.inr (lost gone)))
      coherent
    exact { rests with }

private theorem Finishing.close (h : v.Finishing excuse) (coherent : v.Coherent)
    (t : Transition size metered .close v w) : w.Finishing excuse := by
  have never {b c : Bool} {P : Prop} (other : b = !c) (e : b = c) : P := by
    rw [other] at e
    cases c <;> cases e
  cases t with
  | still => exact h
  | pass passes =>
    obtain ⟨-, -, -, unparted⟩ := Closing.not_of_early passes.early.1
    obtain ⟨unabandoned, unwoken, unemptied, unparted'⟩ := Closing.not_of_early passes.early.2
    exact { h with
      early := fun first => h.early (.inl (passes.begins first))
      giving := never unabandoned
      waking := fun e => absurd e unwoken
      emptied := never unemptied
      parted := never unparted'
      uncalled := fun _ => h.uncalled unparted
      called := never unparted' }
  | request entering =>
    obtain ⟨close, finishing, ended⟩ := h.early (.inr entering)
    exact { h with
      early := by simp
      last := by simpa using close
      closing := fun finishes => absurd finishes finishing
      ended := fun worker => .inr (.inr (ended worker))
      giving := never rfl
      waking := by simp
      emptied := never rfl
      parted := never rfl
      uncalled := fun _ => h.uncalled (by rw [entering]; rfl)
      called := never rfl }
  | finish waiting worker =>
    exact { h with
      early := by simp
      giving := never rfl
      waking := by simp
      emptied := never rfl
      parted := never rfl
      uncalled := fun _ => h.uncalled (by rw [waiting]; rfl)
      called := never rfl }
  | resign resigning =>
    exact {
      early := by simp
      last := h.last
      closing := fun _ => .inl rfl
      ended := fun _ => .inl rfl
      giving := fun _ => rfl
      waking := by simp
      emptied := fun _ => .inl rfl
      parted := fun _ => .inl rfl
      excused := fun _ => .inl rfl
      uncalled := fun _ => h.uncalled (by rw [resigning]; rfl)
      called := never rfl }
  | throw command rest draining queue =>
    have some : v.queue ≠ [] := by simp [queue]
    have given (f : v.finishes) : v.abandoned = true := (h.closing f).resolve_right some
    have ended (e : v.worker = .ended) : v.abandoned = true ∨ excuse :=
      (h.ended e).imp_right fun e => e.resolve_left some
    refine {
      early := by simp
      last := h.close_not_mem_tail queue
      closing := fun f => .inl (given f)
      ended := fun e => (ended e).imp_right .inr
      giving := fun gives => h.giving (by rw [draining]; exact gives)
      waking := by simp
      emptied := never rfl
      parted := never rfl
      excused := fun _ => ?_
      uncalled := fun _ => h.uncalled (by rw [draining]; rfl)
      called := never rfl }
    rcases coherent.stopped (by rw [draining]; rfl) with abandoned | worker
    · exact .inl abandoned
    · exact ended worker
  | book draining queue =>
    rename_i given thrown
    have uncalled := h.uncalled (by rw [draining]; rfl)
    have unparted : (if given then Closing.waking else .leaving).hasParted = false := by
      cases given <;> rfl
    have gives (e : (if given then Closing.waking else .leaving).gives = true) :
        v.abandoned = true := by
      cases given with
      | true => exact h.giving (by rw [draining]; rfl)
      | false => cases e
    exact { h with
      early := by cases given <;> simp
      giving := gives
      waking := fun _ => queue
      emptied := fun _ => .inr queue
      parted := never unparted
      uncalled := fun _ => uncalled
      called := never unparted }
  | wake waking woken =>
    have given : v.abandoned = true := h.giving (by rw [waking]; rfl)
    refine {
      early := by simp
      last := ?_
      closing := fun _ => .inl given
      ended := fun _ => .inl given
      giving := never rfl
      waking := by simp
      emptied := fun _ => .inl given
      parted := never rfl
      excused := h.excused
      uncalled := fun _ => h.uncalled (by rw [waking]; rfl)
      called := never rfl }
    rcases woken with rfl | rfl
    · exact h.last
    · simp [h.waking waking]
  | part leaving =>
    have uncalled := h.uncalled (by rw [leaving]; rfl)
    exact { h with
      early := by simp
      giving := never rfl
      waking := by simp
      emptied := fun _ => h.emptied (by rw [leaving]; rfl)
      parted := fun _ => .inr rfl
      uncalled := never rfl
      called := fun _ => .inr ⟨v.calls, rfl, uncalled⟩ }
  | release batch amount releasing =>
    have parted : v.closing.hasParted = true := by rw [releasing]; rfl
    exact { h with
      early := by simp
      giving := never rfl
      waking := by simp
      emptied := fun _ => h.emptied (Closing.hasEmptied_of_hasParted parted)
      parted := fun _ => h.parted parted
      uncalled := never rfl
      called := fun _ => h.called parted }

private theorem Finishing.step (h : v.Finishing excuse) (coherent : v.Coherent)
    (t : Transition size metered move v w)
    (lost : move = .proceed → v.LosesWorker metered → excuse) : w.Finishing excuse := by
  cases move with
  | report span =>
    cases t with
    | still => exact h
    | refuse => exact { h with }
    | accept _ begun =>
      have queued := h.enqueue begun (.append span) (fun e => by cases e)
      exact { queued with }
  | flush =>
    cases t with
    | still => exact h
    | ask begun => exact h.enqueue begun _ fun e => by cases e
  | take =>
    cases t with
    | still => exact h
    | take command rest worker queue =>
      have alive : v.worker ≠ .ended := by simp [worker]
      have given (emptied : v.closing.hasEmptied = true) : v.abandoned = true :=
        coherent.abandoned alive (Closing.empties_of_hasEmptied emptied)
      refine { h with
        early := fun begun => ⟨fun m => ?_, fun f => ?_, fun e => by cases e⟩
        last := h.close_not_mem_tail queue
        closing := fun f => .inr ?_
        ended := fun e => by cases e
        waking := fun waking => ?_
        emptied := fun emptied => .inl (given emptied) }
      · exact (h.early begun).1 (queue ▸ List.mem_cons_of_mem _ m)
      · rcases f with m | ⟨batch, e⟩
        · exact (h.early begun).1 (queue ▸ List.mem_cons.mpr (.inl (List.mem_singleton.mp m)))
        · cases e
      · rcases f with m | ⟨batch, e⟩
        · exact h.eq_nil_of_close (List.mem_singleton.mp m ▸ queue)
        · cases e
      · have none := h.waking waking
        rw [queue] at none
        cases none
  | proceed => exact h.proceed coherent t (lost rfl)
  | close => exact h.close coherent t

/-- What the moves keep, together. -/
structure Kept (size : Int) (metered : Bool) (base : Int) (excuse : Prop) (v : View) : Prop where
  coherent : v.Coherent
  strays : v.Strays
  bounded : v.Bounded size
  finishing : v.Finishing excuse
  inOrder : v.InOrder metered base

private theorem Kept.step {size base : Int} (h : v.Kept size metered base excuse)
    (positive : 0 < size)
    (t : Transition (.integer size) metered move v w)
    (lost : move = .proceed → v.LosesWorker metered → excuse) : w.Kept size metered base excuse :=
  ⟨h.coherent.step t, h.strays.step h.coherent t, h.bounded.step positive t,
    h.finishing.step h.coherent t lost, h.inOrder.step h.coherent h.strays t⟩

/-- A worker that has ended with an empty buffer hands nothing on any more. -/
structure Silent (handed : List (List Span)) (v : View) : Prop where
  worker : v.worker = .ended
  buffer : v.buffer = []
  handed_eq : v.handed = handed

private theorem Silent.step {handed : List (List Span)} (h : v.Silent handed)
    (t : Transition size metered move v w) : w.Silent handed := by
  obtain ⟨ended, buffer, same⟩ := h
  cases t with
  | still | refuse | accept | ask | pass | request | finish | resign | throw | book | wake
  | release =>
    exact ⟨ended, buffer, same⟩
  | take _ _ worker | look worker | stop worker | bind _ worker | quit _ worker | gather _ _ worker
  | flush _ worker | keep worker | flushDue _ worker | land _ _ _ worker =>
    simp [worker] at ended
  | die lost =>
    obtain ⟨_, _, _, _, _, worker, _⟩ := lost
    simp [worker] at ended
  | part => exact ⟨ended, rfl, by simp [buffer, same]⟩

end View

variable {size : Number} {metered : Bool} {d : Delivery}

private theorem proceed_of_losesWorker (lost : d.LosesWorker) :
    (d.step .proceed).reporter.worker = .ended ∧
      (d.step .proceed).reporter.sender.buffer = d.reporter.sender.buffer ∧
      (d.step .proceed).reporter.sender.handed = d.reporter.sender.handed := by
  obtain ⟨counts, kind, batch, loss, message, worker, other, next, below⟩ := lost
  have worker : d.reporter.worker = .sending kind batch := worker
  have refused := d.reporter.sender.sendBatch_of_refused batch d.host next
  let sent := d.reporter.sender.sendBatch batch d.host
  have e : d.reporter.proceed d.host =
      { d.reporter with sender := sent.2.1 }.conclude kind
        (.error (.failure (.sender message loss none))) sent.2.2 := by
    simp only [RemoteReporter.proceed, worker, RemoteReporter.transmit, ← refused, sent]
  have lostSpans : RemoteReporter.lostSpans kind (.failure (.sender message loss none)) = loss := by
    cases kind with
    | append => exact absurd rfl other
    | flush | close => rfl
  have refuses : sent.2.2.count? d.reporter.metered .reporterFailure loss = none :=
    Host.count?_eq_none.mpr ⟨counts, below⟩
  simp only [step, work, act, e, RemoteReporter.conclude, lostSpans, refuses]
  simp [sent]

private theorem handed_of_losesWorker (hd : d.WellFormed size metered) (coherent : d.view.Coherent)
    (lost : d.LosesWorker) (after : List Move) :
    ((d.step .proceed).run after).reporter.sender.handed = d.reporter.sender.handed := by
  obtain ⟨ended, buffer, handed⟩ := proceed_of_losesWorker lost
  obtain ⟨_, kind, batch, _, _, worker, _⟩ := lost
  have silent : (d.step .proceed).view.Silent d.reporter.sender.handed :=
    ⟨ended, buffer.trans (coherent.sending kind batch worker), handed⟩
  exact (run_induction (transition_step hd .proceed).2 silent (fun t _ h => h.step t) after
    fun _ _ _ _ => trivial).handed_eq

private theorem accepted_step (d : Delivery) (move : Move) :
    ∃ kept, kept.Sublist move.span?.toList ∧ (d.step move).accepted = d.accepted ++ kept := by
  have same {d' : Delivery} (e : d'.accepted = d.accepted) :
      ∃ kept, kept.Sublist move.span?.toList ∧ d'.accepted = d.accepted ++ kept :=
    ⟨[], List.nil_sublist _, by rw [e, List.append_nil]⟩
  cases move with
  | flush | take | proceed => exact same rfl
  | report span =>
    cases refuses : d.reporter.refuses with
    | true => exact same (by simp [step, refuses])
    | false => exact ⟨[span], .refl _, by simp [step, refuses]⟩
  | close => exact same d.closeStep_frame.2

private theorem accepted_run (d : Delivery) (moves : List Move) :
    ∃ kept, kept.Sublist (moves.filterMap Move.span?) ∧
      (d.run moves).accepted = d.accepted ++ kept := by
  induction moves generalizing d with
  | nil => exact ⟨[], .slnil, (List.append_nil _).symm⟩
  | cons move rest ih =>
    obtain ⟨first, reported, accepted⟩ := accepted_step d move
    obtain ⟨kept, sublist, accepted'⟩ := ih (d.step move)
    refine ⟨first ++ kept, ?_, by rw [run_cons, accepted', accepted, List.append_assoc]⟩
    have := reported.append sublist
    cases move <;> exact this

/-- Accepted spans are handed on in order and in bounded batches. What the worker has in hand or let
go stands between what was thrown out before it was taken and what was thrown out later or still
waits; nothing stands there at rest, unless the closing call overtook the worker. A queue that is
not given up is empty when that call returns, and closing the sender was the last call it got. -/
structure Ordered (size : Int) (d : Delivery) : Prop where
  in_order : ∃ before after, d.discarded ++ queuedSpans d.reporter.queue = before ++ after ∧
    d.reporter.sender.handed.flatten ++ d.reporter.sender.buffer ++ before ++
      (queuedSpans d.reporter.worker.inHand ++ d.forsaken) ++ after = d.accepted
  at_rest : d.AtRest → d.overtaken = false →
    d.reporter.sender.handed.flatten ++ d.reporter.sender.buffer ++ d.discarded ++
      queuedSpans d.reporter.queue = d.accepted
  stray : d.forsaken.length ≤ 1 ∧ (d.overtaken = false → d.forsaken = [])
  bounded : ∀ batch ∈ d.reporter.sender.handed, 1 ≤ batch.length ∧ batch.length ≤ size
  close_last : ∀ front back, d.reporter.queue = front ++ .close :: back → back = []
  closed : d.closing = .returned → d.reporter.abandoned = false →
    d.reporter.queue = [] ∧ d.reporter.sender.buffer = [] ∧
      ∃ earlier, d.reporter.sender.calls = earlier ++ [.close] ∧ .close ∉ earlier

section run

variable {n : Int} {transport : Transport} {reporter : RemoteReporter}
  (created : Sender.create (.integer n) transport = .ok reporter.sender) (fresh : reporter.IsFresh)
  (host : Host) (moves : List Move)

include created fresh

private theorem coherent_run : ((start reporter host).run moves).view.Coherent :=
  run_induction (wellFormed_start created fresh host) (coherent_start created fresh host)
    (fun t _ h => h.step t) moves fun _ _ _ _ => trivial

private theorem kept_run :
    ((start reporter host).run moves).view.Kept n reporter.metered
      (host.tally.get .reporterDropped) ((start reporter host).LostWorker moves) := by
  have positive := Sender.size_pos_of_create created
  have sized := wellFormed_start created fresh host
  refine run_induction sized ?_ (fun t lost h => h.step positive t lost) moves ?_
  · refine ⟨coherent_start created fresh host, strays_start created fresh host, ?_, ?_, ?_⟩ <;>
      rw [view_start created fresh]
    · exact ⟨by simp, .inl positive⟩
    · constructor <;> simp [View.finishes, Worker.inHand, Closing.gives, Closing.hasEmptied,
        Closing.hasParted]
    · exact ⟨⟨[], [], rfl, fun _ => rfl, fun _ _ => rfl, rfl⟩, by simp,
        by simp [weight, Closing.thrown]⟩
  · intro before after e loses
    refine ⟨before, after, e, ?_⟩
    rwa [LosesWorker, (wellFormed_run sized before).metered_eq]

private theorem ordered_run : ((start reporter host).run moves).Ordered n := by
  have known := kept_run created fresh host moves
  generalize (start reporter host).run moves = d at known ⊢
  have strays := known.strays
  obtain ⟨before, after, parts⟩ := known.inOrder.parts
  have whole : d.discarded ++ queuedSpans d.reporter.queue = before ++ after := parts.whole
  have fifo : d.reporter.sender.handed.flatten ++ d.reporter.sender.buffer ++ before ++
      (queuedSpans d.reporter.worker.inHand ++ d.forsaken) ++ after = d.accepted := parts.fifo
  refine ⟨⟨before, after, whole, fifo⟩, fun rest kept => ?_, ?_, fun batch m => ?_,
    fun front back queue => ?_, fun returned given => ?_⟩
  · have none : d.forsaken = [] := strays.none kept
    rw [rest.inHand_eq_nil, none] at fifo
    simpa [whole] using fifo
  · have alone : d.forsaken.length + (queuedSpans d.reporter.worker.inHand).length ≤ 1 :=
      strays.alone
    exact ⟨by omega, strays.none⟩
  · obtain ⟨some, le⟩ := known.bounded.batches batch m
    exact ⟨List.length_pos_of_ne_nil some, le⟩
  · by_contra more
    refine known.finishing.last ?_
    change .close ∈ d.reporter.queue.dropLast
    simp [queue, more, List.dropLast_cons_of_ne_nil]
  · have close : ¬ d.view.abandoned = true := by simpa [view] using given
    have parted : d.view.closing.hasParted = true := by
      simp only [view, returned]
      rfl
    exact ⟨(known.finishing.emptied (Closing.hasEmptied_of_hasParted parted)).resolve_left close,
      (known.finishing.parted parted).resolve_left close,
      (known.finishing.called parted).resolve_left close⟩

end run

/-- Spans are delivered in order, once and in bounded batches, in every run. Only a closing call
throws queued spans out, and counts them as dropped; it does so only where it gives the queue up or
where the worker was lost to a loss below zero, after which nothing is handed on. -/
theorem delivered_in_order {n : Int} {transport : Transport} {reporter : RemoteReporter}
    (created : Sender.create (.integer n) transport = .ok reporter.sender)
    (fresh : reporter.IsFresh) (host : Host) (moves : List Move) :
    let d := (start reporter host).run moves
    d.Ordered n ∧ d.accepted.Sublist (moves.filterMap Move.span?) ∧
      gained host d.host .reporterDropped = weight reporter.metered
        (moves.countP Move.isReport - d.accepted.length + d.discarded.length - d.closing.thrown) ∧
      (d.discarded ≠ [] → d.closing.empties = true ∧
        (d.reporter.abandoned = true ∨ (start reporter host).LostWorker moves)) ∧
      ∀ before after, moves = before ++ .proceed :: after →
        ((start reporter host).run before).LosesWorker →
        d.reporter.sender.handed = ((start reporter host).run before).reporter.sender.handed := by
  intro d
  have kept := kept_run created fresh host moves
  obtain ⟨some, sublist, accepted⟩ := accepted_run (start reporter host) moves
  have reported : d.reported = moves.countP Move.isReport := by
    rw [reported_run]
    exact Nat.zero_add _
  refine ⟨ordered_run created fresh host moves, accepted.trans (List.nil_append some) ▸ sublist, ?_,
    fun thrown => ⟨kept.inOrder.thrown thrown, kept.finishing.excused thrown⟩, ?_⟩
  · have dropped : d.host.tally.get .reporterDropped = host.tally.get .reporterDropped +
        weight reporter.metered
          (d.reported - d.accepted.length + d.discarded.length - d.closing.thrown) :=
      kept.inOrder.dropped
    rw [← reported, gained]
    omega
  · rintro before after rfl lost
    have := handed_of_losesWorker (wellFormed_run (wellFormed_start created fresh host) before)
      (coherent_run created fresh host before) lost after
    rwa [← run_cons, ← run_append] at this

/-- A closing call that waits in vain for no one: the worker was lost with the first batch, and the
span behind it is thrown out. -/
theorem discarded_without_abandoning :
    let moves : List Move := [.reportNamed "a", .flush, .proceed, .take, .proceed, .proceed,
      .proceed, .proceed, .take, .proceed, .proceed, .proceed, .reportNamed "b", .close, .close,
      .close, .close, .close, .close, .close, .close]
    let d := (start (.scripted 2 10 [some (.refused (-1) "down")]) {}).run moves
    d.Ordered 2 ∧ d.closing = .returned ∧ d.reporter.abandoned = false ∧ d.discarded.length = 1 ∧
      (start (.scripted 2 10 [some (.refused (-1) "down")]) {}).LostWorker moves := by
  intro moves d
  have created : Sender.create (.integer 2) (.scripted [some (.refused (-1) "down")] []) =
      .ok (RemoteReporter.scripted 2 10 [some (.refused (-1) "down")]).sender := rfl
  obtain ⟨ordered, -, -, discarded, -⟩ :=
    delivered_in_order created (RemoteReporter.isFresh_scripted ..) {} moves
  have kept : d.reporter.abandoned = false := rfl
  have thrown : d.discarded.length = 1 := rfl
  refine ⟨ordered, rfl, kept, thrown, ?_⟩
  have some : d.discarded ≠ [] := List.length_pos_iff.mp (by omega)
  exact (discarded some).2.resolve_left (by rw [kept]; exact Bool.false_ne_true)

end Delivery

end Tracing
