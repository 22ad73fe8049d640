import Mathlib.Tactic
import Tracing.Delivery.Interleaving
/-!
What each call does to the parts of a sender: its buffer, the batches it handed on, the calls it
got, and the outcomes that its transport still has in store. A sent batch is either delivered or
lost as a whole, unless the transport itself names another loss.
-/

set_option autoImplicit false
set_option relaxedAutoImplicit false

namespace Tracing

theorem Number.le_integer (n m : Int) :
    (Number.integer n).le (.integer m) = true ↔ n ≤ m := by
  simp [le, lt, eq, extended?, Extended.blt, le_iff_lt_or_eq]

@[simp] theorem batchOf_nil : batchOf [] = [] := rfl

@[simp] theorem flatten_batchOf (spans : List Span) : (batchOf spans).flatten = spans := by
  unfold batchOf
  split <;> simp [*]

theorem mem_batchOf {spans batch : List Span} :
    batch ∈ batchOf spans ↔ batch = spans ∧ spans ≠ [] := by
  unfold batchOf
  split <;> simp [*]

/-- The outcomes that a transport has in store, where they are scripted. -/
def Transport.outcomes : Transport → List (Option ScriptedFailure)
  | http .. => []
  | scripted outcomes _ => outcomes

namespace Sender

def outcomes : Sender → List (Option ScriptedFailure)
  | noop => []
  | buffered _ t => t.outcomes

/-- A buffer in front of a transport that nothing hinders. -/
def IsPlain (size : Number) : Sender → Prop
  | noop => False
  | buffered box _ => box.hindrance = none ∧ box.maxBatchSize = size

theorem isPlain_of_create {size : Number} {t : Transport} {s : Sender}
    (h : create size t = .ok s) : s.IsPlain size ∧ s = .buffered { maxBatchSize := size } t := by
  unfold create at h
  split at h
  · cases h
  · cases h
    exact ⟨⟨rfl, rfl⟩, rfl⟩

theorem size_pos_of_create {n : Int} {t : Transport} {s : Sender}
    (h : create (.integer n) t = .ok s) : 0 < n := by
  unfold create at h
  split at h
  · cases h
  case isFalse holds =>
    rw [Number.le_integer] at holds
    exact not_le.mp holds

section parts

variable {size : Number} (s : Sender)

@[simp] theorem buffer_note (call : SenderCall) : (s.note call).buffer = s.buffer := by
  cases s <;> rfl

@[simp] theorem handed_note (call : SenderCall) : (s.note call).handed = s.handed := by
  cases s <;> rfl

@[simp] theorem outcomes_note (call : SenderCall) : (s.note call).outcomes = s.outcomes := by
  cases s <;> rfl

@[simp] theorem isPlain_note (call : SenderCall) : (s.note call).IsPlain size ↔ s.IsPlain size := by
  cases s <;> rfl

theorem calls_note (h : s.IsPlain size) (call : SenderCall) :
    (s.note call).calls = s.calls ++ [call] := by
  cases s with
  | noop => exact h.elim
  | buffered => rfl

@[simp] theorem takeBatch_buffered (box : Outbox) (t : Transport) :
    (buffered box t).takeBatch =
      (box.spans,
        buffered { box with spans := [], handed := box.handed ++ batchOf box.spans } t) := by
  obtain ⟨_, _, spans, _, _⟩ := box
  cases spans <;> simp [takeBatch, batchOf]

@[simp] theorem takeBatch_fst : s.takeBatch.1 = s.buffer := by
  cases s with
  | noop => rfl
  | buffered => simp [buffer]

@[simp] theorem buffer_takeBatch : s.takeBatch.2.buffer = [] := by
  cases s with
  | noop => rfl
  | buffered => simp [buffer]

@[simp] theorem handed_takeBatch : s.takeBatch.2.handed = s.handed ++ batchOf s.buffer := by
  cases s with
  | noop => rfl
  | buffered => simp [buffer, handed]

@[simp] theorem calls_takeBatch : s.takeBatch.2.calls = s.calls := by
  cases s with
  | noop => rfl
  | buffered => simp [calls]

@[simp] theorem outcomes_takeBatch : s.takeBatch.2.outcomes = s.outcomes := by
  cases s with
  | noop => rfl
  | buffered => simp [outcomes]

@[simp] theorem isPlain_takeBatch : s.takeBatch.2.IsPlain size ↔ s.IsPlain size := by
  cases s with
  | noop => rfl
  | buffered => simp [IsPlain]

end parts

/-- What an append answers once so many spans are buffered: their number, if they make a batch. -/
def dueOf (size : Number) (count : Nat) : Nat := if size.le (.integer count) then count else 0

theorem append_eq_of_plain {size : Number} {s : Sender} (h : s.IsPlain size) (span : Span) :
    ∃ s', s.append span = (.ok (dueOf size (s.buffer.length + 1)), s') ∧
      s'.IsPlain size ∧ s'.buffer = s.buffer ++ [span] ∧ s'.handed = s.handed ∧
      s'.calls = s.calls ++ [.append] ∧ s'.outcomes = s.outcomes := by
  cases s with
  | noop => exact h.elim
  | buffered box t =>
    obtain ⟨plain, rfl⟩ := h
    have taken : (box.note .append).refusal? span = none := by
      simp [Outbox.refusal?, Outbox.note, plain]
    have length : ((box.note .append).spans ++ [span]).length = box.spans.length + 1 :=
      List.length_append
    simp only [append, taken, length]
    exact ⟨_, rfl, ⟨plain, rfl⟩, rfl, rfl, rfl, rfl⟩

theorem append_of_plain {size : Number} {s : Sender} (h : s.IsPlain size) (span : Span) :
    ∃ due s', s.append span = (.ok due, s') ∧
      (due ≠ 0 ↔ size.le (.integer (s.buffer.length + 1 : Nat)) = true) ∧
      s'.IsPlain size ∧ s'.buffer = s.buffer ++ [span] ∧ s'.handed = s.handed ∧
      s'.calls = s.calls ++ [.append] ∧ s'.outcomes = s.outcomes := by
  obtain ⟨s', appended, parts⟩ := append_eq_of_plain h span
  refine ⟨_, s', appended, ?_, parts⟩
  unfold dueOf
  split
  case isTrue full => exact iff_of_true (Nat.succ_ne_zero _) full
  case isFalse short => exact iff_of_false (fun due => due rfl) short

end Sender

/-- What a failed flush reports, whatever the transport failed with. -/
theorem Transport.batchFault_eq (batch : List Span) (fault : Fault) :
    ∃ text dropped cause, batchFault batch fault = .failure (.sender text dropped cause) ∧
      (dropped = batch.length ∨ ∃ text cause, fault = .failure (.sender text dropped cause)) := by
  rcases fault with f | _ | _ | _ | _ | _ | _
  case failure =>
    cases f with
    | sender text dropped cause => exact ⟨text, dropped, cause, rfl, .inr ⟨text, cause, rfl⟩⟩
    | _ => exact ⟨_, _, _, rfl, .inl rfl⟩
  all_goals exact ⟨_, _, _, rfl, .inl rfl⟩

namespace Tags

private theorem pairOf_error {place : Nat} {item : Json} {fault : Fault}
    (h : pairOf place item = .error fault) (f : Failure) : fault ≠ .failure f := by
  rintro rfl
  unfold pairOf at h
  split at h <;> try cases h
  split at h <;> cases h

private theorem pairsFrom_error {place : Nat} {items : List Json} {fault : Fault}
    (h : pairsFrom place items = .error fault) (f : Failure) : fault ≠ .failure f := by
  induction items generalizing place with
  | nil => cases h
  | cons item rest ih =>
    simp only [pairsFrom, bind, Except.bind] at h
    cases hp : pairOf place item with
    | error g =>
      rw [hp] at h
      cases h
      exact pairOf_error hp f
    | ok pair =>
      rw [hp] at h
      cases hr : pairsFrom (place + 1) rest with
      | error g =>
        simp only [hr] at h
        cases h
        exact ih hr
      | ok others =>
        simp only [hr] at h
        cases h

private theorem ofJson_error {v : Json} {fault : Fault} (h : ofJson v = .error fault)
    (f : Failure) :
    fault ≠ .failure f := by
  unfold ofJson at h
  split at h
  case h_2 items =>
    cases hp : pairsFrom 0 items with
    | error g =>
      rw [hp] at h
      cases h
      exact pairsFrom_error hp f
    | ok pairs =>
      rw [hp] at h
      cases h
  case h_3 =>
    split at h
    · cases h
    · cases h
      intro e
      cases e
  all_goals
    cases h
    try
      intro e
      cases e

end Tags

private theorem Span.exportFault?_ne_failure {s : Span} {fault : Fault}
    (h : s.exportFault? = some fault)
    (f : Failure) : fault ≠ .failure f := by
  unfold exportFault? at h
  split at h
  · cases h
    intro e
    cases e
  · split at h
    case h_1 g hg =>
      cases h
      obtain ⟨v, _, hv⟩ := Option.map_eq_some_iff.mp hg
      exact Tags.ofJson_error hv f
    case h_2 => cases h

namespace Transport

/-- A transport names a loss of its own only where its script says so. -/
theorem send_error {t : Transport} {batch : List Span} {net : Http.Network} {text : String}
    {dropped : Int} {cause : Option Cause}
    (h : (t.send batch net).1 = .error (.failure (.sender text dropped cause))) :
    dropped = batch.length ∨
      ∃ message, t.outcomes.head? = some (some (.refused dropped message)) := by
  cases t with
  | http endpoint token timeout client =>
    left
    simp only [send] at h
    split at h
    case h_1 fault hf =>
      obtain ⟨span, _, hs⟩ := List.exists_of_findSome?_eq_some hf
      cases h
      exact absurd rfl (Span.exportFault?_ne_failure hs _)
    case h_2 =>
      split at h
      · cases h
      · split at h
        · cases h
          rfl
        · cases h
  | scripted outcomes batches =>
    right
    cases outcomes with
    | nil => cases h
    | cons outcome rest =>
      cases outcome with
      | none => cases h
      | some failure =>
        cases failure with
        | refused d message =>
          cases h
          exact ⟨text, rfl⟩
        | broken message => cases h

@[simp] theorem outcomes_send (t : Transport) (batch : List Span) (net : Http.Network) :
    (t.send batch net).2.1.outcomes = t.outcomes.drop 1 := by
  cases t with
  | http =>
    simp only [send]
    split <;> rfl
  | scripted outcomes batches => rcases outcomes with _ | ⟨_ | _, _⟩ <;> rfl

end Transport

namespace Sender

section sent

variable {size : Number} (s : Sender) (batch : List Span) (h : Host)

@[simp] theorem buffer_sendBatch : (s.sendBatch batch h).2.1.buffer = s.buffer := by
  cases s with
  | noop => rfl
  | buffered => simp only [sendBatch]; split <;> rfl

@[simp] theorem handed_sendBatch : (s.sendBatch batch h).2.1.handed = s.handed := by
  cases s with
  | noop => rfl
  | buffered => simp only [sendBatch]; split <;> rfl

@[simp] theorem calls_sendBatch : (s.sendBatch batch h).2.1.calls = s.calls := by
  cases s with
  | noop => rfl
  | buffered => simp only [sendBatch]; split <;> rfl

@[simp] theorem isPlain_sendBatch :
    (s.sendBatch batch h).2.1.IsPlain size ↔ s.IsPlain size := by
  cases s with
  | noop => rfl
  | buffered => simp only [sendBatch]; split <;> rfl

@[simp] theorem outcomes_sendBatch : (s.sendBatch batch h).2.1.outcomes = s.outcomes.drop 1 := by
  cases s with
  | noop => rfl
  | buffered => simp only [sendBatch]; split <;> exact Transport.outcomes_send ..

@[simp] theorem tally_sendBatch : (s.sendBatch batch h).2.2.tally = h.tally := by
  cases s with
  | noop => rfl
  | buffered => simp only [sendBatch]; split <;> rfl

/-- A batch is sent as a whole or fails with a loss, its own length unless the script names it. -/
theorem sendBatch_result (hs : s.IsPlain size) :
    (s.sendBatch batch h).1 = .ok batch.length ∨
      ∃ text dropped cause,
        (s.sendBatch batch h).1 = .error (.failure (.sender text dropped cause)) ∧
        (dropped = batch.length ∨
          ∃ message, s.outcomes.head? = some (some (.refused dropped message))) := by
  cases s with
  | noop => exact hs.elim
  | buffered box t =>
    simp only [sendBatch]
    cases hr : (t.send batch h.network).1 with
    | ok _ => exact .inl rfl
    | error fault =>
      right
      obtain ⟨text, dropped, cause, hb, hd⟩ := Transport.batchFault_eq batch fault
      refine ⟨text, dropped, cause, congrArg Except.error hb, ?_⟩
      rcases hd with hd | ⟨_, _, rfl⟩
      · exact .inl hd
      · exact Transport.send_error hr

theorem sendBatch_of_refused {loss : Int} {message : String}
    (next : s.outcomes.head? = some (some (.refused loss message))) :
    (s.sendBatch batch h).1 = .error (.failure (.sender message loss none)) := by
  cases s with
  | noop => cases next
  | buffered box t =>
    cases t with
    | http => cases next
    | scripted outcomes batches =>
      obtain ⟨rest, rfl⟩ : ∃ rest, outcomes = some (.refused loss message) :: rest :=
        List.head?_eq_some_iff.mp next
      rfl

@[simp] theorem buffer_release : s.release.buffer = s.buffer := by cases s <;> rfl

@[simp] theorem handed_release : s.release.handed = s.handed := by cases s <;> rfl

@[simp] theorem calls_release : s.release.calls = s.calls := by cases s <;> rfl

@[simp] theorem isPlain_release : s.release.IsPlain size ↔ s.IsPlain size := by cases s <;> rfl

@[simp] theorem outcomes_release : s.release.outcomes = s.outcomes := by
  cases s with
  | noop => rfl
  | buffered _ t => cases t <;> rfl

theorem closingFault?_of_plain (hs : s.IsPlain size) : s.closingFault? = none := by
  cases s with
  | noop => exact hs.elim
  | buffered box t => simp [closingFault?, Outbox.closingFault?, hs.1]

theorem startClose_of_plain (hs : s.IsPlain size) :
    s.startClose = (s.buffer, (s.note .close).takeBatch.2) := by
  have open_ : (s.note .close).closingFault? = none :=
    (s.note .close).closingFault?_of_plain ((s.isPlain_note .close).mpr hs)
  simp only [startClose, open_]
  exact Prod.ext (by simp) rfl

theorem finishClose_of_plain (hs : s.IsPlain size) :
    s.finishClose batch h =
      if batch = [] then (.ok 0, s.release, h)
      else
        let sent := s.sendBatch batch h
        (sent.1, sent.2.1.release, sent.2.2) := by
  simp only [finishClose, s.closingFault?_of_plain hs, List.isEmpty_iff]
  split <;> rfl

end sent

end Sender

end Tracing
