import Tracing.Proofs.Delivery.Buffering
/-!
A buffered sender on its own, driven in any order and over any way of sending. Whatever becomes of
its batches, the spans that it was given stand in the batches that it handed on and in its buffer,
in their order; and by what it answered and raised, each of them is sent, lost or still buffered.
-/

set_option autoImplicit false
set_option relaxedAutoImplicit false

namespace Tracing

/-- What a sender is asked for: to buffer a span, to send its buffer, or to send it for the last
time. Sending comes with the means for it. -/
inductive Demand (α : Type) where
  | append (span : Span)
  | flush (means : α)
  | close (means : α)

namespace Demand

def map {α β : Type} (f : α → β) : Demand α → Demand β
  | append span => append span
  | flush means => flush (f means)
  | close means => close (f means)

def span? {α : Type} : Demand α → Option Span
  | append span => some span
  | _ => none

end Demand

/-- A way of sending: what becomes of a batch, and of the transport that takes it. -/
abbrev Carrier := Transport → List Span → Except Fault Unit × Transport

/-- How a transport itself sends, in some surroundings. -/
def Carrier.own (h : Host) : Carrier := fun t batch =>
  ((t.send batch h.network).1, (t.send batch h.network).2.1)

/-- How a demand was served: the batches that were given to the way of sending, the answer, and the
sender after it. -/
structure Served where
  batches : List (List Span) := []
  answer : Except Fault Nat
  sender : Sender

namespace Sender

/-- Gives a batch that was taken to a way of sending. -/
def carryBatch (s : Sender) (batch : List Span) (carry : Carrier) : Served :=
  match s with
  | noop => { answer := .ok 0, sender := noop }
  | buffered box t =>
    match carry t batch with
    | (.ok (), t) => ⟨[batch], .ok batch.length, buffered box t⟩
    | (.error f, t) => ⟨[batch], .error (Transport.batchFault batch f), buffered box t⟩

def shipBy (s : Sender) (carry : Carrier) : Served :=
  if s.takeBatch.1.isEmpty then { answer := .ok 0, sender := s.takeBatch.2 }
  else s.takeBatch.2.carryBatch s.takeBatch.1 carry

def serveBy (s : Sender) : Demand Carrier → Served
  | .append span => { answer := (s.append span).1, sender := (s.append span).2 }
  | .flush carry => (s.note .flush).shipBy carry
  | .close carry =>
    match (s.note .close).closingFault? with
    | some f => { answer := .error f, sender := s.note .close }
    | none =>
      let served := (s.note .close).shipBy carry
      { served with sender := served.sender.release }

/-- The answer of a sender that sends by its own transport, and the sender after it. -/
def serve (s : Sender) : Demand Host → Except Fault Nat × Sender
  | .append span => s.append span
  | .flush h => ((s.flush h).1, (s.flush h).2.1)
  | .close h => ((s.close h).1, (s.close h).2.1)

/-- A way of sending that names no other loss than the whole buffer, if it names one as the sender
does. Nothing is asked of it where there is nothing to send. -/
def IsFair (s : Sender) (carry : Carrier) : Prop :=
  ∀ box t, s = buffered box t → box.spans ≠ [] → ∀ text dropped cause,
    (carry t box.spans).1 = .error (.failure (.sender text dropped cause)) →
      dropped = box.spans.length

/-- An answer that accounts for a number of spans: all of them are sent, or all of them are lost. -/
def Settles (count : Nat) (answer : Except Fault Nat) : Prop :=
  answer = .ok count ∨ ∃ text cause, answer = .error (.failure (.sender text count cause))

/-- The whole buffer was handed on as one batch, if there was any, and the answer accounts for
it. -/
structure Clears (size : Number) (s : Sender) (e : Served) : Prop where
  plain : e.sender.IsPlain size
  buffer : e.sender.buffer = []
  batches : e.batches = batchOf s.buffer
  handed : e.sender.handed = s.handed ++ batchOf s.buffer
  settles : Settles s.buffer.length e.answer

section own

private theorem carryBatch_own (s : Sender) (batch : List Span) (h : Host) :
    ((s.carryBatch batch (.own h)).answer, (s.carryBatch batch (.own h)).sender) =
      ((s.sendBatch batch h).1, (s.sendBatch batch h).2.1) := by
  cases s with
  | noop => rfl
  | buffered box t =>
    simp only [carryBatch, sendBatch, Carrier.own]
    cases (t.send batch h.network).1 with
    | ok => rfl
    | error f => rfl

private theorem shipBy_own (s : Sender) (h : Host) :
    ((s.shipBy (.own h)).answer, (s.shipBy (.own h)).sender) = ((s.ship h).1, (s.ship h).2.1) := by
  unfold shipBy ship
  dsimp only
  split
  · rfl
  · exact carryBatch_own _ _ h

private theorem closingFault?_takeBatch (s : Sender) :
    s.takeBatch.2.closingFault? = s.closingFault? := by
  cases s with
  | noop => rfl
  | buffered box t =>
    simp only [takeBatch]
    split <;> rfl

private theorem close_eq (s : Sender) (h : Host) :
    s.close h = match (s.note .close).closingFault? with
      | some f => (.error f, s.note .close, h)
      | none =>
        (((s.note .close).ship h).1, ((s.note .close).ship h).2.1.release,
          ((s.note .close).ship h).2.2) := by
  cases fault : (s.note .close).closingFault? with
  | none =>
    simp only [close, startClose, fault, finishClose, closingFault?_takeBatch, ship]
  | some f => simp only [close, startClose, fault, finishClose]

private theorem serveBy_own (s : Sender) (d : Demand Host) :
    ((s.serveBy (d.map .own)).answer, (s.serveBy (d.map .own)).sender) = s.serve d := by
  cases d with
  | append span => rfl
  | flush h => exact shipBy_own _ h
  | close h =>
    have shipped := shipBy_own (s.note .close) h
    simp only [Demand.map, serveBy, serve, close_eq]
    cases (s.note .close).closingFault? with
    | none =>
      injection shipped with answer sender
      dsimp only
      rw [answer, sender]
    | some f => rfl

end own

section served

variable {size : Number} {s : Sender}

/-- A batch that is not sent is lost as a whole: either the way of sending says so, or what it
raised is wrapped. -/
private theorem carryBatch_of_fair (box : Outbox) {t : Transport} {batch : List Span}
    {carry : Carrier}
    (fair : ∀ text dropped cause,
      (carry t batch).1 = .error (.failure (.sender text dropped cause)) → dropped = batch.length) :
    ∃ t' answer, (buffered box t).carryBatch batch carry = ⟨[batch], answer, buffered box t'⟩ ∧
      Settles batch.length answer := by
  simp only [carryBatch]
  split
  case h_1 t' _ => exact ⟨t', _, rfl, .inl rfl⟩
  case h_2 fault t' carried =>
    obtain ⟨text, dropped, cause, wrapped, counted⟩ := Transport.batchFault_eq batch fault
    have all : dropped = batch.length := by
      rcases counted with whole | ⟨text, cause, rfl⟩
      · exact whole
      · exact fair text dropped cause (by rw [carried])
    exact ⟨t', _, rfl, .inr ⟨text, cause, by rw [wrapped, all]⟩⟩

private theorem clears_shipBy (plain : s.IsPlain size) {carry : Carrier} (fair : s.IsFair carry) :
    Clears size s (s.shipBy carry) := by
  cases s with
  | noop => exact plain.elim
  | buffered box t =>
    simp only [shipBy, takeBatch_buffered, List.isEmpty_iff]
    by_cases empty : box.spans = []
    · rw [if_pos empty]
      exact ⟨plain, rfl, by simp [buffer, empty], rfl, .inl (by simp [buffer, empty])⟩
    · rw [if_neg empty]
      obtain ⟨t', answer, carried, settled⟩ := carryBatch_of_fair
        { box with spans := [], handed := box.handed ++ batchOf box.spans } (fair box t rfl empty)
      rw [carried]
      exact ⟨plain, rfl, by simp [batchOf, buffer, empty], rfl, settled⟩

private theorem isFair_note (call : SenderCall) {carry : Carrier} (fair : s.IsFair carry) :
    (s.note call).IsFair carry := by
  cases s with
  | noop =>
    intro box t same
    cases same
  | buffered box t =>
    rintro _ _ ⟨⟩
    exact fair box t rfl

private theorem clears_flush (plain : s.IsPlain size) {carry : Carrier} (fair : s.IsFair carry)
    (call : SenderCall) : Clears size s ((s.note call).shipBy carry) := by
  have noted : (s.note call).IsPlain size := (isPlain_note s call).mpr plain
  obtain ⟨still, buffer, batches, handed, settled⟩ := clears_shipBy noted (isFair_note call fair)
  rw [buffer_note] at batches handed settled
  rw [handed_note] at handed
  exact ⟨still, buffer, batches, handed, settled⟩

private theorem clears_close (plain : s.IsPlain size) {carry : Carrier} (fair : s.IsFair carry) :
    Clears size s (s.serveBy (.close carry)) := by
  obtain ⟨still, buffer, batches, handed, settled⟩ := clears_flush plain fair .close
  have open_ := (s.note .close).closingFault?_of_plain ((s.isPlain_note .close).mpr plain)
  simp only [serveBy, open_]
  refine ⟨?_, ?_, batches, ?_, settled⟩
  · exact (isPlain_release _).mpr still
  · rw [buffer_release, buffer]
  · rw [handed_release, handed]

end served

end Sender

def Demand.IsFair (s : Sender) : Demand Carrier → Prop
  | append _ => True
  | flush carry => s.IsFair carry
  | close carry => s.IsFair carry

/-- The spans that a flush or a closing counts as sent. -/
def Served.sent (e : Served) : Demand Carrier → Nat
  | .append _ => 0
  | _ =>
    match e.answer with
    | .ok count => count
    | .error _ => 0

/-- The spans that are dropped by what was raised. -/
def Served.lost (e : Served) : Int :=
  match e.answer with
  | .error (.failure (.sender _ dropped _)) => dropped
  | _ => 0

private theorem Served.counts_of_settles {e : Served} {d : Demand Carrier} {count : Nat}
    (other : d.span? = none) (settled : Sender.Settles count e.answer) :
    (e.sent d : Int) + e.lost = count := by
  have shipped : e.sent d = match e.answer with
      | .ok sent => sent
      | .error _ => 0 := by
    cases d with
    | append span => cases other
    | flush | close => rfl
  rw [shipped, lost]
  rcases settled with answer | ⟨text, cause, answer⟩
  · simp [answer]
  · simp [answer]

/-- A sender, and the demands that it served so far. -/
structure Dispatch where
  sender : Sender
  past : List (Demand Carrier × Served) := []

namespace Dispatch

def step (v : Dispatch) (d : Demand Carrier) : Dispatch where
  sender := (v.sender.serveBy d).sender
  past := v.past ++ [(d, v.sender.serveBy d)]

def run (v : Dispatch) (demands : List (Demand Carrier)) : Dispatch := demands.foldl step v

def batches (v : Dispatch) : List (List Span) := v.past.flatMap fun e => e.2.batches

/-- The spans that all flushes and closings counted as sent. -/
def sent (v : Dispatch) : Nat := (v.past.map fun e => e.2.sent e.1).sum

/-- The spans that are dropped by everything that was raised. -/
def lost (v : Dispatch) : Int := (v.past.map fun e => e.2.lost).sum

/-- Each demand finds a fair way of sending, if it needs one. -/
def IsFair (v : Dispatch) : List (Demand Carrier) → Prop
  | [] => True
  | d :: rest => d.IsFair v.sender ∧ (v.step d).IsFair rest

/-- What a sender makes of the spans that it was given. -/
structure Conserves (size : Number) (demands : List (Demand Carrier)) (v : Dispatch) : Prop where
  plain : v.sender.IsPlain size
  answered : v.past.map Prod.fst = demands
  handed : v.sender.handed = v.batches
  inOrder : v.batches.flatten ++ v.sender.buffer = demands.filterMap Demand.span?
  filled : [] ∉ v.batches
  balanced : (v.sent : Int) + v.lost + v.sender.buffer.length =
    (demands.filterMap Demand.span?).length
  failures : ∀ e ∈ v.past, ∀ f, e.2.answer = .error f →
    ∃ text dropped cause, f = .failure (.sender text dropped cause)
  due : ∀ e ∈ v.past, ∀ span, e.1 = .append span →
    e.2.answer = .ok (Sender.dueOf size e.2.sender.buffer.length)

section run

variable {size : Number} {v : Dispatch} {demands : List (Demand Carrier)}

private theorem batches_step (v : Dispatch) (d : Demand Carrier) :
    (v.step d).batches = v.batches ++ (v.sender.serveBy d).batches := by
  simp [batches, step]

private theorem sent_step (v : Dispatch) (d : Demand Carrier) :
    (v.step d).sent = v.sent + (v.sender.serveBy d).sent d := by
  simp [sent, step]

private theorem lost_step (v : Dispatch) (d : Demand Carrier) :
    (v.step d).lost = v.lost + (v.sender.serveBy d).lost := by
  simp [lost, step]

private theorem answered_step (kept : v.past.map Prod.fst = demands) (d : Demand Carrier) :
    (v.step d).past.map Prod.fst = demands ++ [d] := by
  simp [step, kept]

private theorem forall_past_step {P : Demand Carrier × Served → Prop} (before : ∀ e ∈ v.past, P e)
    {d : Demand Carrier} (last : P (d, v.sender.serveBy d)) : ∀ e ∈ (v.step d).past, P e := by
  intro e served
  rcases List.mem_append.mp served with earlier | now
  · exact before e earlier
  · rw [List.mem_singleton.mp now]
    exact last

private theorem conserves_start {s : Sender} {t : Transport} (made : Sender.create size t = .ok s) :
    Conserves size [] ⟨s, []⟩ := by
  obtain ⟨plain, rfl⟩ := Sender.isPlain_of_create made
  refine ⟨plain, rfl, rfl, rfl, ?_, rfl, ?_, ?_⟩
  · intro empty
    cases empty
  · intro e served
    cases served
  · intro e served
    cases served

private theorem Conserves.step_append (kept : Conserves size demands v) (span : Span) :
    Conserves size (demands ++ [.append span]) (v.step (.append span)) := by
  obtain ⟨s', appended, plain, buffer, handed, -, -⟩ :=
    Sender.append_eq_of_plain kept.plain span
  have served : v.sender.serveBy (.append span) =
      ⟨[], .ok (Sender.dueOf size (v.sender.buffer.length + 1)), s'⟩ := by
    simp only [Sender.serveBy, appended]
  have sender : (v.step (.append span)).sender = s' := congrArg Served.sender served
  have same : (v.step (.append span)).batches = v.batches := by
    rw [batches_step, served, List.append_nil]
  have length : s'.buffer.length = v.sender.buffer.length + 1 := by
    rw [buffer, List.length_append, List.length_singleton]
  refine ⟨?_, answered_step kept.answered _, ?_, ?_, ?_, ?_, ?_, ?_⟩
  · rwa [sender]
  · rw [same, sender, handed, kept.handed]
  · rw [same, sender, buffer, List.filterMap_append, ← kept.inOrder, List.append_assoc]
    rfl
  · rw [same]
    exact kept.filled
  · have balanced := kept.balanced
    rw [sent_step, lost_step, sender, length, served, List.filterMap_append, List.length_append]
    show (v.sent + 0 : Nat) + (v.lost + 0) + ((v.sender.buffer.length + 1 : Nat) : Int) =
      ((_ + 1 : Nat) : Int)
    omega
  · apply forall_past_step kept.failures
    intro f raised
    rw [served] at raised
    cases raised
  · apply forall_past_step kept.due
    intro _ _
    rw [served, length]

private theorem Conserves.step_ship {d : Demand Carrier} (kept : Conserves size demands v)
    (other : d.span? = none) (cleared : Sender.Clears size v.sender (v.sender.serveBy d)) :
    Conserves size (demands ++ [d]) (v.step d) := by
  obtain ⟨plain, buffer, batches, handed, settled⟩ := cleared
  have given : (demands ++ [d]).filterMap Demand.span? = demands.filterMap Demand.span? := by
    simp [other]
  have empty : (v.step d).sender.buffer = [] := buffer
  refine ⟨plain, answered_step kept.answered _, ?_, ?_, ?_, ?_, ?_, ?_⟩
  · rw [batches_step, batches, ← kept.handed]
    exact handed
  · rw [batches_step, batches, given, ← kept.inOrder, empty, List.flatten_append, flatten_batchOf,
      List.append_nil]
  · rw [batches_step, batches]
    intro hollow
    rcases List.mem_append.mp hollow with earlier | now
    · exact kept.filled earlier
    · obtain ⟨same, some⟩ := mem_batchOf.mp now
      exact some same.symm
  · have balanced := kept.balanced
    have counted := Served.counts_of_settles other settled
    rw [given, sent_step, lost_step, empty, List.length_nil]
    omega
  · apply forall_past_step kept.failures
    intro f raised
    rcases settled with answer | ⟨text, cause, answer⟩
    · cases answer.symm.trans raised
    · cases answer.symm.trans raised
      exact ⟨text, _, cause, rfl⟩
  · apply forall_past_step kept.due
    rintro span rfl
    cases other

private theorem Conserves.step {d : Demand Carrier} (kept : Conserves size demands v)
    (fair : d.IsFair v.sender) : Conserves size (demands ++ [d]) (v.step d) := by
  cases d with
  | append span => exact kept.step_append span
  | flush carry => exact kept.step_ship rfl (Sender.clears_flush kept.plain fair .flush)
  | close carry => exact kept.step_ship rfl (Sender.clears_close kept.plain fair)

private theorem Conserves.run {later : List (Demand Carrier)} (kept : Conserves size demands v)
    (fair : v.IsFair later) : Conserves size (demands ++ later) (v.run later) := by
  induction later generalizing demands v with
  | nil => rwa [List.append_nil]
  | cons d rest ih =>
    rw [List.append_cons]
    exact ih (kept.step fair.1) fair.2

end run

section own

private theorem isFair_own {s : Sender}
    (unnamed : ∀ loss message, some (.refused loss message) ∉ s.outcomes) (h : Host) :
    s.IsFair (.own h) := by
  rintro box t rfl - text dropped cause raised
  rcases Transport.send_error raised with whole | ⟨message, next⟩
  · exact whole
  · exact absurd (List.mem_of_head? next) (unnamed dropped message)

private theorem outcomes_ship (s : Sender) (h : Host) : (s.ship h).2.1.outcomes ⊆ s.outcomes := by
  unfold Sender.ship
  dsimp only
  split
  · rw [Sender.outcomes_takeBatch]
    exact List.Subset.refl _
  · rw [Sender.outcomes_sendBatch, Sender.outcomes_takeBatch]
    exact List.drop_subset _ _

private theorem outcomes_serve (s : Sender) (d : Demand Host) :
    (s.serve d).2.outcomes ⊆ s.outcomes := by
  cases d with
  | append span =>
    cases s with
    | noop => exact List.Subset.refl _
    | buffered box t =>
      simp only [Sender.serve, Sender.append]
      split
      · exact List.Subset.refl _
      · exact List.Subset.refl _
  | flush h =>
    have used := outcomes_ship (s.note .flush) h
    rwa [Sender.outcomes_note] at used
  | close h =>
    have used := outcomes_ship (s.note .close) h
    rw [Sender.outcomes_note] at used
    simp only [Sender.serve, Sender.close_eq]
    split
    · rw [Sender.outcomes_note]
      exact List.Subset.refl _
    · rw [Sender.outcomes_release]
      exact used

private theorem isFair_of_unnamed {v : Dispatch}
    (unnamed : ∀ loss message, some (.refused loss message) ∉ v.sender.outcomes)
    (calls : List (Demand Host)) : v.IsFair (calls.map (.map .own)) := by
  induction calls generalizing v with
  | nil => trivial
  | cons d rest ih =>
    refine ⟨?_, ih ?_⟩
    · cases d with
      | append span => trivial
      | flush h => exact isFair_own unnamed h
      | close h => exact isFair_own unnamed h
    · intro loss message named
      have sender : (v.step (d.map .own)).sender = (v.sender.serve d).2 :=
        congrArg Prod.snd (v.sender.serveBy_own d)
      rw [sender] at named
      exact unnamed loss message (outcomes_serve v.sender d named)

end own

/-- However a sender is driven, and whatever becomes of its batches, as long as a loss that is named
is the whole batch: the batches that it handed on and its buffer are the spans that it was given, in
their order; what it answered and raised counts each of them once; and it raises nothing but
failures of its own. Its own calls are such demands, and over the network no other loss is named. -/
theorem conserves_run {size : Number} {t : Transport} {s : Sender}
    (made : Sender.create size t = .ok s) :
    (∀ demands, IsFair ⟨s, []⟩ demands → Conserves size demands (run ⟨s, []⟩ demands)) ∧
    (∀ (s' : Sender) (d : Demand Host),
      ((s'.serveBy (d.map .own)).answer, (s'.serveBy (d.map .own)).sender) = s'.serve d) ∧
    (∀ endpoint token timeout client, t = .http endpoint token timeout client →
      ∀ calls : List (Demand Host), IsFair ⟨s, []⟩ (calls.map (.map .own))) := by
  refine ⟨?_, Sender.serveBy_own, ?_⟩
  · intro demands fair
    exact (conserves_start made).run fair
  · rintro endpoint token timeout client rfl calls
    obtain ⟨-, rfl⟩ := Sender.isPlain_of_create made
    apply isFair_of_unnamed
    intro loss message named
    cases named

/-- A sender in front of a collector that refuses a batch, takes one and breaks down at one. -/
def strained : Dispatch where
  sender := .buffered { maxBatchSize := .integer 2 }
    (.scripted [some (.refused 3 "send failed"), none, some (.broken "collector down")] [])

def appendNamed (name : String) : Demand Host :=
  .append { traceId := 7, spanId := 1, operation := .text name }

/-- The buffer grows past a batch before it is flushed, and the sender is closed twice. -/
def untimely : List (Demand Carrier) :=
  [appendNamed "a", appendNamed "b", appendNamed "c", .flush {}, .flush {}, appendNamed "d",
    .flush {}, appendNamed "e", .close {}, .close {}].map (.map .own)

/-- The refused batch is lost with its three spans, one span is sent, and one is lost in closing. -/
theorem grown_batch_conserved :
    strained.IsFair untimely ∧ (strained.run untimely).Conserves (.integer 2) untimely ∧
      (strained.run untimely).past.map (fun e => e.2.answer.toOption) =
        [some 0, some 2, some 3, none, some 0, some 0, some 1, some 0, none, some 0] ∧
      (strained.run untimely).sent = 1 ∧ (strained.run untimely).lost = 4 := by
  have fair : strained.IsFair untimely := by
    refine ⟨trivial, trivial, trivial, ?_, ?_, trivial, ?_, trivial, ?_, ?_, trivial⟩
    -- only the first batch is refused by the collector itself
    · rintro box t ⟨⟩ - text dropped cause ⟨⟩
      rfl
    all_goals rintro box t ⟨⟩ - text dropped cause ⟨⟩
  have made : Sender.create (.integer 2) (.scripted [some (.refused 3 "send failed"), none,
      some (.broken "collector down")] []) = .ok strained.sender := rfl
  exact ⟨fair, (conserves_run made).1 untimely fair, rfl, rfl, rfl⟩

end Dispatch

end Tracing
