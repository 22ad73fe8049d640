import Tracing.Proofs.Filtering.Bystanders
/-!
The books of a filter. Every reported span is forwarded, counted as too short, dropped after it was
held, or held, and is so once; the counters, the gauge and the cached number of held spans agree
with the spans themselves after every call.
-/

set_option autoImplicit false
set_option relaxedAutoImplicit false

namespace Tracing

open Metrics (Instrument)
open Delivery (gained)

namespace Reporter

/-- What is asked of a reporter. -/
inductive Call where
  | report (span : Span)
  | close

def Call.span? : Call → Option Span
  | report span => some span
  | close => none

def call (r : Reporter) (h : Host) : Call → Reporter × Host
  | .report span => r.report span h
  | .close => (r.close h).2

def calls (r : Reporter) (h : Host) : List Call → Reporter × Host
  | [] => (r, h)
  | c :: rest => calls (r.call h c).1 (r.call h c).2 rest

end Reporter

namespace Filter

/-- Dropped as soon as it is reported: too short, or without a parent to wait for. -/
def discards (f : Filter) (s : Span) : Bool := f.short s || f.deferrable s && s.isRoot

def adds (f : Filter) (s : Span) : Instrument → Nat
  | .filteredSpans => if f.discards s then 1 else 0
  | .deferredDropped => if f.discards s then (f.waitingFor s.spanId).length else 0
  | .deferredStarted => if f.waits s then 1 else 0
  | .deferredSent => if f.qualifies s then (f.waitingFor s.spanId).length else 0
  | _ => 0

variable {f g : Filter} {s : Span} {h h' : Host}

private theorem class_cases (f : Filter) (s : Span) :
    f.qualifies s = true ∧ f.discards s = false ∧ f.waits s = false ∨
      f.qualifies s = false ∧ f.discards s = true ∧ f.waits s = false ∨
      f.qualifies s = false ∧ f.discards s = false ∧ f.waits s = true := by
  unfold qualifies discards waits deferrable
  cases f.short s <;> cases s.durationMicros.lt f.deferBelow <;> cases s.isRoot <;> simp

private theorem Alike.discards_eq (alike : g.Alike f) : g.discards = f.discards := by
  obtain ⟨short, deferrable, -, -⟩ := alike.classes
  funext s
  simp [Filter.discards, short, deferrable]

private theorem gained_dropSpan (metered : f.metered = true) (held : List Span) (h : Host)
    {i : Instrument}
    (counter : i ≠ .deferredPending) :
    gained h (f.dropSpan held h).2 i =
      (if i = .filteredSpans then 1 else 0) + if i = .deferredDropped then held.length else 0 := by
  have other : ¬ (Instrument.deferredPending = i) := fun same => counter same.symm
  unfold dropSpan dropHeld releaseHeld gained
  split
  case isTrue none =>
    have empty : held.length = 0 := by simpa using none
    simp [metered, empty, eq_comm]
  case isFalse =>
    simp only [Host.get_count, Host.get_gauge, metered, other, and_false, if_false, true_and]
    simp only [eq_comm (a := i)]
    push_cast
    omega

private theorem pass_of_discards (e : f.discards s = true) (h : Host) :
    f.pass s h = ([], (f.without s.spanId).dropSpan (f.waitingFor s.spanId) h) := by
  cases drop : s.durationMicros.lt f.dropBelow with
  | true => simp [pass, without, drop]
  | false =>
    simp only [discards, Filter.short, deferrable, drop, Bool.not_false, Bool.true_and,
      Bool.false_or, Bool.and_eq_true] at e
    simp [pass, without, drop, e.1, e.2]

private theorem pass_eq_of_waits (e : f.waits s = true) (h : Host) :
    f.pass s h = ([], (f.without s.spanId).holdBack s (f.waitingFor s.spanId) h) := by
  simp only [waits, deferrable, Filter.short, Bool.and_eq_true, Bool.not_eq_true'] at e
  obtain ⟨⟨drop, defer⟩, root⟩ := e
  simp [pass, without, drop, defer, root]

private theorem host_of_qualifies (e : f.qualifies s = true) (h : Host) :
    (f.pass s h).2.2 =
      if f.waitingFor s.spanId = [] then h
      else ((f.without s.spanId).releaseHeld (f.waitingFor s.spanId).length h).2.count f.metered
        .deferredSent (f.waitingFor s.spanId).length := by
  obtain ⟨drop, defer⟩ := qualifies_iff.mp e
  simp only [deferrable, drop, Bool.not_false, Bool.true_and] at defer
  simp only [Filter.short] at drop
  by_cases none : f.waitingFor s.spanId = [] <;>
    simp [pass, without, drop, defer, none, releaseHeld]

private theorem gained_pass (metered : f.metered = true) (s : Span) (h : Host) {i : Instrument}
    (counter : i ≠ .deferredPending) : gained h (f.pass s h).2.2 i = f.adds s i := by
  rcases class_cases f s with ⟨long, kept, free⟩ | ⟨short, gone, free⟩ | ⟨short, kept, waits⟩
  · rw [host_of_qualifies long]
    by_cases none : f.waitingFor s.spanId = []
    · cases i <;> simp [adds, none, kept, free, gained]
    · cases i <;>
        simp [adds, none, kept, free, long, gained, releaseHeld, without, metered] at counter ⊢
  · rw [pass_of_discards gone, gained_dropSpan (f := f.without s.spanId) metered _ h counter]
    cases i <;> simp [adds, gone, free, short]
  · rw [pass_eq_of_waits waits]
    cases i <;> simp [adds, kept, waits, short, gained, holdBack, without, metered] at counter ⊢

private theorem gained_clear (metered : f.metered = true) (h : Host) {i : Instrument}
    (counter : i ≠ .deferredPending) :
    gained h (f.clear h).2 i = if i = .deferredDropped then (f.held.length : Int) else 0 := by
  have other : ¬ (Instrument.deferredPending = i) := fun same => counter same.symm
  by_cases none : f.pending.length = 0
  · simp [clear, none, gained, held, other]
  · simp [clear, none, gained, held, other, metered, eq_comm]

private theorem coe_held (f : Filter) (id : Int) :
    (f.held : Multiset Span) = f.waitingFor id + (f.without id).held := by
  unfold held waitingFor without
  rw [Multiset.coe_add, ← List.map_append]
  exact Multiset.coe_eq_coe.mpr ((List.filter_append_perm _ _).map _).symm

def takesAlong (f : Filter) (s : Span) : List Span :=
  if f.discards s then f.waitingFor s.spanId else []

/-- What is held after a span: what did not wait for it, and what did and the span itself, if the
span waits. -/
private theorem held_pass (f : Filter) (s : Span) (h : Host) :
    (f.pass s h).2.1.held =
      (f.without s.spanId).held ++ if f.waits s then f.waitingFor s.spanId ++ [s] else [] := by
  rcases class_cases f s with ⟨long, -, free⟩ | ⟨short, -, free⟩ | ⟨-, -, waits⟩
  · simp [held, (pass_of_qualifies long).2.1, free]
  · simp [held, (pass_of_dropped short free).2.1, free]
  · simp [held, (pass_of_waits waits).2.1, waits, Function.comp_def]

private theorem coe_pass (f : Filter) (s : Span) (h : Host) :
    ((f.pass s h).1 + ([s].filter f.discards : List Span) + f.takesAlong s +
      (f.pass s h).2.1.held : Multiset Span) = f.held + {s} := by
  rw [coe_held f s.spanId, held_pass, takesAlong]
  rcases class_cases f s with ⟨long, kept, free⟩ | ⟨short, gone, free⟩ | ⟨-, kept, waits⟩
  · rw [(pass_of_qualifies long).1, List.filter_cons_of_neg (by simp [kept]), kept, free]
    simp only [← Multiset.coe_add, List.filter_nil, Multiset.coe_nil, Multiset.coe_singleton,
      add_zero, Bool.false_eq_true, if_false]
    ac_rfl
  · rw [(pass_of_dropped short free).1, List.filter_cons_of_pos gone, gone, free]
    simp only [← Multiset.coe_add, List.filter_nil, Multiset.coe_nil, Multiset.coe_singleton,
      zero_add, add_zero, Bool.false_eq_true, if_false, if_true]
    ac_rfl
  · rw [(pass_of_waits waits).1, List.filter_cons_of_neg (by simp [kept]), kept, waits]
    simp only [← Multiset.coe_add, List.filter_nil, Multiset.coe_nil, Multiset.coe_singleton,
      zero_add, Bool.false_eq_true, if_false, if_true]
    ac_rfl

private theorem countP_forwarded (waiting : ∀ t ∈ f.waitingFor s.spanId, f.waits t = true)
    (h : Host) :
    (f.pass s h).1.countP f.waits = f.adds s .deferredSent := by
  unfold adds
  rcases class_cases f s with ⟨long, -, free⟩ | ⟨short, -, free⟩ | ⟨short, -, waits⟩
  · obtain ⟨forwarded, -⟩ := pass_of_qualifies long
    rw [forwarded, List.countP_append, List.countP_eq_length.mpr waiting]
    simp [long, free]
  · rw [(pass_of_dropped short free).1]
    simp [short]
  · rw [(pass_of_waits waits).1]
    simp [short]

private theorem mem_held_pass {t : Span} (m : t ∈ (f.pass s h).2.1.held) :
    t ∈ f.held ∨ t = s ∧ f.waits s = true := by
  have split : t ∈ f.held ↔ t ∈ f.waitingFor s.spanId ∨ t ∈ (f.without s.spanId).held := by
    rw [← Multiset.mem_coe, coe_held f s.spanId, Multiset.mem_add, Multiset.mem_coe,
      Multiset.mem_coe]
  rw [held_pass, List.mem_append] at m
  rw [split]
  cases waits : f.waits s with
  | true =>
    rw [waits, if_pos rfl, List.mem_append, List.mem_singleton] at m
    tauto
  | false =>
    rw [waits, if_neg Bool.false_ne_true] at m
    exact .inl (.inr (m.resolve_right List.not_mem_nil))

/-- Where the reported spans are, and what the books of a filter say about them: those forwarded,
those discarded on arrival, those dropped after they were held, and those held. -/
structure Accounts (f : Filter) (start : Host) (reported received dropped : List Span)
    (g : Filter) (h : Host) : Prop where
  spans : (reported : Multiset Span) =
    received + (reported.filter f.discards : List Span) + dropped + g.held
  filtered : gained start h .filteredSpans = (reported.filter f.discards).length
  lost : gained start h .deferredDropped = dropped.length
  started : gained start h .deferredStarted = reported.countP f.waits
  sent : gained start h .deferredSent = received.countP f.waits
  deferred : ∀ s ∈ dropped ++ g.held, f.waits s = true
  pending : g.pendingCount = g.held.length
  shown : h.tally.get .deferredPending = g.pendingCount

variable {start : Host} {reported received dropped : List Span}

private theorem accounts_nil (empty : f.pending = []) (shows : f.Shows 0 h) :
    f.Accounts h [] [] [] f h where
  spans := by simp [held, empty]
  filtered := sub_self _
  lost := sub_self _
  started := sub_self _
  sent := sub_self _
  deferred := by simp [held, empty]
  pending := by simp [held, shows.booked]
  shown := shows.shown

private theorem Accounts.shows (a : f.Accounts start reported received dropped g h)
    (metered : g.metered = true) : g.Shows 0 h :=
  ⟨metered, by simpa [held] using a.pending, a.shown⟩

private theorem Accounts.balance (a : f.Accounts start reported received dropped g h) :
    gained start h .deferredStarted =
      gained start h .deferredSent + gained start h .deferredDropped + g.pendingCount := by
  -- the spans that wait, counted on both sides of where all spans are
  have waiting : reported.countP f.waits = received.countP f.waits +
      (reported.filter f.discards).countP f.waits + dropped.countP f.waits +
        g.held.countP f.waits := by
    simpa [add_assoc] using congrArg (Multiset.countP fun s => f.waits s = true) a.spans
  have none : (reported.filter f.discards).countP f.waits = 0 := by
    refine List.countP_eq_zero.mpr fun s m waits => ?_
    have gone := (List.mem_filter.mp m).2
    rcases class_cases f s with ⟨-, kept, -⟩ | ⟨-, -, free⟩ | ⟨-, kept, -⟩
    · simp [kept] at gone
    · simp [free] at waits
    · simp [kept] at gone
  have all (l : List Span) (among : l ⊆ dropped ++ g.held) : l.countP f.waits = l.length :=
    List.countP_eq_length.mpr fun s m => a.deferred s (among m)
  rw [none, all dropped (List.subset_append_left _ _), all g.held (List.subset_append_right _ _)]
    at waiting
  rw [a.started, a.sent, a.lost, a.pending, waiting]
  push_cast
  omega

private theorem Accounts.bystand (a : f.Accounts start reported received dropped g h)
    (only : h.MovesOnly Delivery.instruments h') :
    f.Accounts start reported received dropped g h' := by
  have same {i : Instrument} (apart : i ∉ Delivery.instruments) :
      gained start h' i = gained start h i := by
    unfold gained
    rw [only i apart]
  exact { a with
    filtered := (same (by decide)).trans a.filtered
    lost := (same (by decide)).trans a.lost
    started := (same (by decide)).trans a.started
    sent := (same (by decide)).trans a.sent
    shown := (only _ (by decide)).trans a.shown }

private theorem gained_trans (start h h' : Host) (i : Instrument) :
    gained start h' i = gained start h i + gained h h' i := by
  unfold gained
  omega

private theorem Accounts.pass (a : f.Accounts start reported received dropped g h)
    (alike : g.Alike f)
    (metered : g.metered = true) (s : Span) :
    f.Accounts start (reported ++ [s]) (received ++ (g.pass s h).1) (dropped ++ g.takesAlong s)
      (g.pass s h).2.1 (g.pass s h).2.2 := by
  obtain ⟨kept, -, -⟩ := moves_pass (a.shows metered) s
  have books {i : Instrument} (counter : i ≠ .deferredPending) :
      gained start (g.pass s h).2.2 i = gained start h i + g.adds s i := by
    rw [gained_trans start h, gained_pass metered s h counter]
  -- the thresholds never change, so a span is of the same class for `g` as for `f`
  obtain ⟨-, -, -, waits⟩ := alike.classes
  have discards := alike.discards_eq
  have waiting : ∀ t ∈ g.waitingFor s.spanId, g.waits t = true := fun t m =>
    waits ▸ a.deferred t (List.mem_append_right _ (mem_held.mpr ⟨_, m⟩))
  have along : ∀ t ∈ g.takesAlong s, t ∈ g.waitingFor s.spanId := by
    unfold takesAlong
    split
    · exact fun _ m => m
    · exact fun _ m => absurd m List.not_mem_nil
  refine ⟨?_, ?_, ?_, ?_, ?_, ?_, by simpa [held] using kept.booked, kept.shown⟩
  · have moved := coe_pass g s h
    rw [discards] at moved
    rw [List.filter_append]
    simp only [← Multiset.coe_add]
    rw [a.spans, Multiset.coe_singleton, add_assoc, ← moved]
    ac_rfl
  · rw [books (by decide), a.filtered, List.filter_append, List.length_append]
    cases gone : f.discards s <;> simp [adds, discards, gone]
  · rw [books (by decide), a.lost, List.length_append]
    cases gone : g.discards s <;> simp [adds, takesAlong, gone]
  · rw [books (by decide), a.started, List.countP_append]
    cases waiting : f.waits s <;> simp [adds, waits, waiting]
  · rw [books (by decide), a.sent, List.countP_append, ← waits, countP_forwarded waiting]
    push_cast
    rfl
  · intro t m
    rcases List.mem_append.mp m with m | m
    · rcases List.mem_append.mp m with m | m
      · exact a.deferred t (List.mem_append_left _ m)
      · exact waits ▸ waiting t (along t m)
    · rcases mem_held_pass m with m | ⟨rfl, waiting⟩
      · exact a.deferred t (List.mem_append_right _ m)
      · exact waits ▸ waiting

private theorem Accounts.clear (a : f.Accounts start reported received dropped g h)
    (metered : g.metered = true) :
    f.Accounts start reported received (dropped ++ g.held) (g.clear h).1 (g.clear h).2 := by
  obtain ⟨empty, kept, -⟩ := moves_clear (a.shows metered)
  have books {i : Instrument} (counter : i ≠ .deferredPending) :
      gained start (g.clear h).2 i =
        gained start h i + if i = .deferredDropped then (g.held.length : Int) else 0 := by
    rw [gained_trans start h, gained_clear metered h counter]
  have none : (g.clear h).1.held = [] := by simp [held, empty]
  constructor
  · rw [none, a.spans, ← Multiset.coe_add]
    abel_nf
    simp
  · rw [books (by decide), a.filtered]
    simp
  · rw [books (by decide), a.lost]
    simp
  · rw [books (by decide), a.started]
    simp
  · rw [books (by decide), a.sent]
    simp
  · simpa [none] using a.deferred
  · simpa [held] using kept.booked
  · exact kept.shown

/-- The books of a filter that has its thresholds and counts. -/
structure Kept (f : Filter) (start : Host) (reported received dropped : List Span)
    (g : Filter) (h : Host) : Prop where
  accounts : f.Accounts start reported received dropped g h
  alike : g.Alike f
  metered : g.metered = true

private theorem Kept.call (kept : f.Kept start reported received dropped g h) {d : Reporter}
    (unfiltered : d.Unfiltered) (v w w' : Watch) (c : Reporter.Call) :
    ∃ g' received' dropped' d' h',
      (Reporter.filtering v g (.recording w w' received d)).call h c =
          (.filtering v g' (.recording w w' received' d'), h') ∧
        f.Kept start (reported ++ c.span?.toList) received' dropped' g' h' ∧ d'.Unfiltered := by
  obtain ⟨accounts, alike, metered⟩ := kept
  cases c with
  | report s =>
    obtain ⟨d', h', ran, bystands⟩ := Reporter.report_recording w w' received unfiltered v g s h
    have passed := (accounts.pass alike metered s).bystand bystands.only
    have shows := (moves_pass (accounts.shows metered) s).1
    exact ⟨_, _, _, d', h', ran, ⟨passed, alike.pass s h, shows.metered⟩, bystands.unfiltered⟩
  | close =>
    have accounts := accounts.bystand (v.movesOnly_record h _)
    rw [Reporter.Call.span?, Option.toList_none, List.append_nil]
    rcases Reporter.close_recording w w' received unfiltered v g h with
      ran | ⟨d', h', ran, bystands⟩
    · exact ⟨g, _, _, d, _, ran, ⟨accounts, alike, metered⟩, unfiltered⟩
    · have cleared := (accounts.clear metered).bystand bystands.only
      exact ⟨_, _, _, d', h', ran, ⟨cleared, alike, metered⟩, bystands.unfiltered⟩

private theorem Kept.calls (kept : f.Kept start reported received dropped g h) {d : Reporter}
    (unfiltered : d.Unfiltered) (v w w' : Watch) (cs : List Reporter.Call) :
    ∃ g' received' dropped' d' h',
      (Reporter.filtering v g (.recording w w' received d)).calls h cs =
          (.filtering v g' (.recording w w' received' d'), h') ∧
        f.Kept start (reported ++ cs.filterMap Reporter.Call.span?) received' dropped' g' h' := by
  -- what stands behind the filter changes with every call, and still filters nothing
  induction cs generalizing reported received dropped g h d with
  | nil => exact ⟨g, received, dropped, d, h, rfl, by simpa using kept⟩
  | cons c rest ih =>
    obtain ⟨g', received', dropped', d', h', ran, kept', unfiltered'⟩ :=
      kept.call unfiltered v w w' c
    obtain ⟨g'', received'', dropped'', d'', h'', ran', kept''⟩ := ih kept' unfiltered'
    refine ⟨g'', received'', dropped'', d'', h'', ?_, ?_⟩
    · rw [Reporter.calls, ran]
      exact ran'
    · rw [List.append_assoc] at kept''
      cases c <;> exact kept''

/-- A filter accounts for every span that it is given, whatever the spans, the thresholds and the
calls, and whatever becomes of the spans behind it: each is forwarded, discarded on arrival, dropped
after it was held, or held. The counters, the gauge and the cached number of held spans say how many
are where. The instruments are those of this filter: no other one stands behind it. -/
theorem accounts_of_calls (empty : f.pending = []) (fresh : f.Shows 0 h) {d : Reporter}
    (unfiltered : d.Unfiltered) (v w w' : Watch) (cs : List Reporter.Call) :
    ∃ g received dropped d' h',
      (Reporter.filtering v f (.recording w w' [] d)).calls h cs =
          (.filtering v g (.recording w w' received d'), h') ∧
        f.Accounts h (cs.filterMap Reporter.Call.span?) received dropped g h' ∧
        gained h h' .deferredStarted =
          gained h h' .deferredSent + gained h h' .deferredDropped + g.pendingCount := by
  have kept : f.Kept h [] [] [] f h := ⟨accounts_nil empty fresh, ⟨rfl, rfl⟩, fresh.metered⟩
  obtain ⟨g, received, dropped, d', h', ran, kept⟩ := kept.calls unfiltered v w w' cs
  exact ⟨g, received, dropped, d', h', ran, kept.accounts, kept.accounts.balance⟩

/-- A span that was reported twice is forwarded twice; a short one and one that is its own parent
are not. -/
theorem repeated_and_own_parent_accounted :
    let span (id parent duration : Int) : Span :=
      { traceId := 1, spanId := id, operation := .text "op", parentId := parent
        durationMicros := .integer duration }
    let f : Filter := { dropBelow := .integer 10, deferBelow := .integer 100, metered := true }
    let spans := [span 3 2 20, span 3 2 20, span 5 5 20, span 4 2 5, span 2 1 200]
    ∃ g dropped d' h',
      (Reporter.filtering {} f (.recording {} {} [] (.logging {}))).calls {}
          (spans.map .report ++ [.close]) =
        (.filtering {} g (.recording {} {} [span 3 2 20, span 3 2 20, span 2 1 200] d'), h') ∧
      f.Accounts {} spans [span 3 2 20, span 3 2 20, span 2 1 200] dropped g h' := by
  intro span f spans
  obtain ⟨g, received, dropped, d', h', run, accounts, -⟩ :=
    accounts_of_calls (f := f) (h := {}) rfl ⟨rfl, rfl, rfl⟩ (.logging {}) {} {} {}
      (spans.map .report ++ [.close])
  have forwarded : received = [span 3 2 20, span 3 2 20, span 2 1 200] := by
    clear accounts
    dsimp only [span, f, spans] at run ⊢
    injection run with filtering _
    injection filtering with _ _ delegate
    injection delegate with _ parts
    injection parts with memory _
    injection memory with _ same
    exact same.symm
  rw [forwarded] at run accounts
  exact ⟨g, dropped, d', h', run, accounts⟩

end Filter

end Tracing
