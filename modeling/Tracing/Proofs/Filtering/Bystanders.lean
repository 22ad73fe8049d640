import Tracing.Proofs.Filtering.Forwarding
import Tracing.Proofs.Pipeline.Instruments
/-!
What stands behind a filter. Reporters that filter nothing leave the instruments of a filter alone,
whatever they do with the spans that they are handed and however they are closed. A memory in front
of them keeps what the filter forwards.
-/

set_option autoImplicit false
set_option relaxedAutoImplicit false

namespace Tracing

open Metrics (Instrument)

namespace Delivery

def instruments : List Instrument :=
  [.reporterSuccess, .reporterFailure, .reporterDropped, .reporterQueueLength]

private theorem movesOnly_run (d : Delivery) (moves : List Move) :
    d.host.MovesOnly instruments (d.run moves).host := by
  induction moves generalizing d with
  | nil => exact .of_tally rfl
  | cons move rest ih =>
    have among : d.moved move ⊆ instruments := by
      cases move with
      | report | flush | take | proceed =>
        simp [moved, instruments, RemoteReporter.workerInstruments]
      | close =>
        unfold moved
        dsimp only
        split <;> decide
    exact ((movesOnly_step d move).mono among).trans (ih (d.step move))

end Delivery

theorem Watch.movesOnly_record (w : Watch) (h : Host) (moved : List Instrument) :
    h.MovesOnly moved (w.record h) := .of_tally (w.tally_record h)

namespace RemoteReporter

variable (r : RemoteReporter) (h : Host)

private theorem movesOnly_settle : h.MovesOnly Delivery.instruments (r.settle h).2 := by
  obtain ⟨moves, -, -, host, -⟩ := Delivery.works_settle (Delivery.start r h)
  have moved := Delivery.movesOnly_run (Delivery.start r h) moves
  rw [host] at moved
  exact moved

private theorem movesOnly_close : h.MovesOnly Delivery.instruments (r.close h).2.2 := by
  cases closed : r.closed with
  | true =>
    unfold close
    rw [closed]
    exact .of_tally rfl
  | false =>
    obtain ⟨moves, -, -, -, host, -⟩ := Delivery.close_eq_run (Delivery.start r h) closed rfl
    have moved := Delivery.movesOnly_run (Delivery.start r h) (moves ++ [.close])
    rw [Delivery.run_append, Delivery.run_cons, Delivery.run_nil, host] at moved
    exact moved

end RemoteReporter

namespace Reporter

/-- Reporters that filter nothing. -/
inductive Unfiltered : Reporter → Prop
  | memory (w : Watch) (spans : List Span) : Unfiltered (.memory w spans)
  | logging (w : Watch) : Unfiltered (.logging w)
  | remote (w : Watch) (r : RemoteReporter) : Unfiltered (.remote w r)
  | composite {rs : List Reporter} (w : Watch) :
      (∀ r ∈ rs, Unfiltered r) → Unfiltered (.composite w rs)

/-- What a reporter has become filters nothing, and it moved nothing but what deliveries move. -/
structure Bystands (h : Host) (r' : Reporter) (h' : Host) : Prop where
  unfiltered : Unfiltered r'
  only : h.MovesOnly Delivery.instruments h'

/-- The same of several reporters. -/
structure AllBystand (h : Host) (rs' : List Reporter) (h' : Host) : Prop where
  unfiltered : ∀ r ∈ rs', Unfiltered r
  only : h.MovesOnly Delivery.instruments h'

section Parts

variable {r : Reporter} {rs : List Reporter} {h h' h'' : Host}

private theorem AllBystand.nil : AllBystand h [] h := ⟨List.forall_mem_nil _, .of_tally rfl⟩

private theorem AllBystand.cons (first : Bystands h r h') (rest : AllBystand h' rs h'') :
    AllBystand h (r :: rs) h'' :=
  ⟨List.forall_mem_cons.mpr ⟨first.unfiltered, rest.unfiltered⟩, first.only.trans rest.only⟩

private theorem allBystand_each {step : Reporter → Span → Host → Reporter × Host} {s : Span}
    (steps : ∀ r ∈ rs, ∀ h, Bystands h (step r s h).1 (step r s h).2) (h : Host) :
    AllBystand h (each step s rs h).1 (each step s rs h).2 := by
  induction rs generalizing h with
  | nil => exact .nil
  | cons r rest ih =>
    obtain ⟨first, others⟩ := List.forall_mem_cons.mp steps
    exact .cons (first h) (ih others _)

private theorem bystands_offerWithin (unfiltered : Unfiltered r) (n : Nat) (s : Span) (h : Host) :
    Bystands h (offerWithin n r s h).1 (offerWithin n r s h).2 := by
  induction unfiltered generalizing n h with
  | memory w spans =>
    cases n with
    | zero => exact ⟨.memory w spans, .of_tally rfl⟩
    | succ n => exact ⟨.memory w _, .of_tally rfl⟩
  | logging w => cases n <;> exact ⟨.logging w, .of_tally rfl⟩
  | remote w r =>
    cases n with
    | zero => exact ⟨.remote w r, .of_tally rfl⟩
    | succ n => exact ⟨.remote w _, (r.movesOnly_offer h s).mono (by decide)⟩
  | composite w parts ih =>
    cases n with
    | zero => exact ⟨.composite w parts, .of_tally rfl⟩
    | succ n =>
      have handed := allBystand_each (fun r m h => ih r m n h) h
      exact ⟨.composite w handed.unfiltered, handed.only⟩

private theorem allBystand_settle
    (settles : ∀ r ∈ rs, ∀ i h, Bystands h (eachRemote (fun _ r h => r.settle h) i h r).2.1
      (eachRemote (fun _ r h => r.settle h) i h r).2.2) (i : Nat) (h : Host) :
    AllBystand h (eachRemoteOf (fun _ r h => r.settle h) i h rs).2.1
      (eachRemoteOf (fun _ r h => r.settle h) i h rs).2.2 := by
  induction rs generalizing i h with
  | nil => exact .nil
  | cons r rest ih =>
    obtain ⟨first, others⟩ := List.forall_mem_cons.mp settles
    exact .cons (first i h) (ih others _ _)

private theorem bystands_settle (unfiltered : Unfiltered r) (i : Nat) (h : Host) :
    Bystands h (eachRemote (fun _ r h => r.settle h) i h r).2.1
      (eachRemote (fun _ r h => r.settle h) i h r).2.2 := by
  induction unfiltered generalizing i h with
  | memory w spans => exact ⟨.memory w spans, .of_tally rfl⟩
  | logging w => exact ⟨.logging w, .of_tally rfl⟩
  | remote w r => exact ⟨.remote w _, r.movesOnly_settle h⟩
  | composite w _ ih =>
    have settled := allBystand_settle ih i h
    exact ⟨.composite w settled.unfiltered, settled.only⟩

private theorem allBystand_closeAll
    (closes : ∀ r ∈ rs, Unfiltered r ∧
      ∀ h, Bystands h (close h r).2.1 (close h r).2.2) (h : Host) :
    AllBystand h (closeAll h rs).2.1 (closeAll h rs).2.2 := by
  induction rs generalizing h with
  | nil => exact .nil
  | cons r rest ih =>
    obtain ⟨⟨-, first⟩, others⟩ := List.forall_mem_cons.mp closes
    have closed := first h
    rw [closeAll]
    cases ended : close h r with
    | mk fault after =>
      rw [ended] at closed
      cases fault with
      | some f => exact .cons closed ⟨fun r m => (others r m).1, .of_tally rfl⟩
      | none => exact .cons closed (ih others _)

private theorem bystands_close (unfiltered : Unfiltered r) (h : Host) :
    Bystands h (close h r).2.1 (close h r).2.2 := by
  have recorded (w : Watch) (h : Host) := w.movesOnly_record h Delivery.instruments
  induction unfiltered generalizing h with
  | memory w spans => exact ⟨.memory w spans, recorded w h⟩
  | logging w => exact ⟨.logging w, recorded w h⟩
  | remote w r =>
    rw [close]
    dsimp only
    split
    · exact ⟨.remote w r, recorded w h⟩
    · exact ⟨.remote w _, (recorded w h).trans (r.movesOnly_close _)⟩
  | composite w parts ih =>
    rw [close]
    dsimp only
    split
    · exact ⟨.composite w parts, recorded w h⟩
    · have closed := allBystand_closeAll (fun r m => ⟨parts r m, ih r m⟩) (w.record h)
      exact ⟨.composite w closed.unfiltered, (recorded w h).trans closed.only⟩

end Parts

def recording (w w' : Watch) (kept : List Span) (d : Reporter) : Reporter :=
  .composite w [.memory w' kept, d]

section Recording

variable {d : Reporter} (w w' : Watch) (kept : List Span)

private theorem depth_recording (d : Reporter) : ∃ n, depth (recording w w' kept d) = n + 2 := by
  refine ⟨max 1 (depth d) - 1, ?_⟩
  simp only [recording, depth, depthAll]
  omega

private theorem feed_recording (unfiltered : Unfiltered d) (n : Nat) (spans : List Span)
    (h : Host) :
    ∃ d' h', feed (offerWithin (n + 2)) (recording w w' kept d) spans h =
        (recording w w' (kept ++ spans) d', h') ∧
      Bystands h d' h' := by
  induction spans generalizing kept d h with
  | nil => exact ⟨d, h, by rw [feed, List.append_nil], unfiltered, .of_tally rfl⟩
  | cons s rest ih =>
    obtain ⟨unfiltered', only⟩ := bystands_offerWithin unfiltered (n + 1) s h
    obtain ⟨d', h', fed, kept', only'⟩ := ih (kept ++ [s]) unfiltered' _
    refine ⟨d', h', ?_, kept', only.trans only'⟩
    rw [List.append_assoc, List.singleton_append] at fed
    exact fed

/-- A filter in front of a memory and another reporter hands them what it forwards. -/
theorem report_recording (unfiltered : Unfiltered d) (v : Watch) (f : Filter) (s : Span)
    (h : Host) :
    ∃ d' h', report (.filtering v f (recording w w' kept d)) s h =
        (.filtering v (f.pass s h).2.1 (recording w w' (kept ++ (f.pass s h).1) d'), h') ∧
      Bystands (f.pass s h).2.2 d' h' := by
  obtain ⟨n, deep⟩ := depth_recording w w' kept d
  obtain ⟨d', h', fed, handed⟩ :=
    feed_recording w w' kept unfiltered n (f.pass s h).1 (f.pass s h).2.2
  have settled := bystands_settle handed.unfiltered 0 h'
  refine ⟨_, _, ?_, settled.unfiltered, handed.only.trans settled.only⟩
  simp only [report, offer, depth, offerWithin, deep, fed]
  rfl

private theorem close_recorded (unfiltered : Unfiltered d) (h : Host) :
    ∃ d', (close h (recording w w' kept d)).2.1 = recording w w' kept d' ∧
      Bystands h d' (close h (recording w w' kept d)).2.2 := by
  have recorded (v : Watch) (h : Host) := v.movesOnly_record h Delivery.instruments
  simp only [recording, close]
  cases w.fault? with
  | some f => exact ⟨d, rfl, unfiltered, recorded w h⟩
  | none =>
    simp only [closeAll, close]
    cases w'.fault? with
    | some f => exact ⟨d, rfl, unfiltered, (recorded w h).trans (recorded w' _)⟩
    | none =>
      have closed := bystands_close unfiltered (w'.record (w.record h))
      dsimp only
      cases ended : close (w'.record (w.record h)) d with
      | mk fault after =>
        rw [ended] at closed
        have only := ((recorded w h).trans (recorded w' _)).trans closed.only
        cases fault <;> exact ⟨_, rfl, closed.unfiltered, only⟩

/-- A filter that is closed drops what it holds, unless the closing fails before. -/
theorem close_recording (unfiltered : Unfiltered d) (v : Watch) (f : Filter) (h : Host) :
    (close h (.filtering v f (recording w w' kept d))).2 =
        (.filtering v f (recording w w' kept d), v.record h) ∨
      ∃ d' h', (close h (.filtering v f (recording w w' kept d))).2 =
          (.filtering v (f.clear (v.record h)).1 (recording w w' kept d'), h') ∧
        Bystands (f.clear (v.record h)).2 d' h' := by
  rw [close]
  cases v.fault? with
  | some fault => exact .inl rfl
  | none =>
    obtain ⟨d', same, bystands⟩ :=
      close_recorded w w' kept unfiltered (f.clear (v.record h)).2
    refine .inr ⟨d', _, ?_, bystands⟩
    rw [← same]

end Recording

end Reporter

end Tracing
