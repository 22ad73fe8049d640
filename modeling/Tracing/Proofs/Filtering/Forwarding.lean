import Tracing.Proofs.Filtering.Forest
/-!
What a filter forwards. The spans that wait for an identifier not yet reported are the post-order
listing of its children so far; a span takes along the listing that waits for it, upward or to the
delegate.
-/

set_option autoImplicit false
set_option relaxedAutoImplicit false

namespace Tracing

namespace Filter

def held (f : Filter) : List Span := f.pending.map Prod.snd

/-- Takes spans one after the other. The answer lists the forwarded spans. -/
def passAll (f : Filter) : List Span → Host → List Span × Filter × Host
  | [], h => ([], f, h)
  | s :: rest, h =>
    let (now, f, h) := f.pass s h
    let (later, f, h) := f.passAll rest h
    (now ++ later, f, h)

variable {f g : Filter} {s : Span} {host : Host}

theorem mem_held : s ∈ f.held ↔ ∃ id, s ∈ f.waitingFor id := by
  simp [held, waitingFor]

theorem waitingFor_without (id other : Int) :
    (f.without id).waitingFor other = if other = id then [] else f.waitingFor other := by
  unfold waitingFor without
  rw [List.filter_filter]
  split
  case isTrue same =>
    subst same
    simp
  case isFalse differ =>
    congr 1
    refine List.filter_congr fun entry _ => ?_
    by_cases key : entry.1 = other
    · simp [key, differ]
    · simp [key]

theorem waitingFor_of_append {id : Int} {moved : List Span}
    (pending : g.pending = f.pending ++ moved.map fun s => (id, s)) (other : Int) :
    g.waitingFor other = f.waitingFor other ++ if other = id then moved else [] := by
  unfold waitingFor
  rw [pending, List.filter_append, List.map_append]
  congr 1
  by_cases same : other = id
  · subst same
    simp [List.filter_map, Function.comp_def]
  · simp [List.filter_map, Function.comp_def, same, Ne.symm same]

def Alike (f g : Filter) : Prop := f.dropBelow = g.dropBelow ∧ f.deferBelow = g.deferBelow

theorem Alike.classes (h : g.Alike f) :
    g.short = f.short ∧ g.deferrable = f.deferrable ∧ g.qualifies = f.qualifies ∧
      g.waits = f.waits := by
  obtain ⟨drop, defer⟩ := h
  have short : g.short = f.short := funext fun s => by simp [Filter.short, drop]
  have deferrable : g.deferrable = f.deferrable :=
    funext fun s => by simp [Filter.deferrable, short, defer]
  exact ⟨short, deferrable, funext fun s => by simp [Filter.qualifies, short, deferrable],
    funext fun s => by simp [Filter.waits, deferrable]⟩

private theorem dropHeld_eq (spans : List Span) :
    (f.dropHeld spans host).1.pending = f.pending ∧ (f.dropHeld spans host).1.Alike f := by
  unfold dropHeld
  split <;> exact ⟨rfl, rfl, rfl⟩

private theorem dropSpan_eq (spans : List Span) :
    (f.dropSpan spans host).1.pending = f.pending ∧ (f.dropSpan spans host).1.Alike f :=
  dropHeld_eq spans

/-- A span that is long enough takes along all that wait for it. -/
theorem pass_of_qualifies (long : f.qualifies s = true) :
    (f.pass s host).1 = f.waitingFor s.spanId ++ [s] ∧
      (f.pass s host).2.1.pending = (f.without s.spanId).pending ∧
      (f.pass s host).2.1.Alike f := by
  have drop : s.durationMicros.lt (f.without s.spanId).dropBelow = false :=
    (qualifies_iff.mp long).1
  have defer : s.durationMicros.lt f.deferBelow = false := by
    simpa [deferrable, (qualifies_iff.mp long).1] using (qualifies_iff.mp long).2
  have defer : s.durationMicros.lt (f.without s.spanId).deferBelow = false := defer
  simp only [pass, drop, defer, Bool.false_eq_true, if_false]
  by_cases none : f.waitingFor s.spanId = []
  · simp only [none, List.isEmpty_nil, if_true]
    exact ⟨rfl, trivial, rfl, rfl⟩
  · simp only [List.isEmpty_iff, none, if_false]
    exact ⟨trivial, rfl, rfl, rfl⟩

/-- A span that waits moves all that wait for it to where it waits itself. -/
theorem pass_of_waits (waits : f.waits s = true) :
    (f.pass s host).1 = [] ∧
      (f.pass s host).2.1.pending = (f.without s.spanId).pending ++
        (f.waitingFor s.spanId ++ [s]).map (fun s' => (s.parentId, s')) ∧
      (f.pass s host).2.1.Alike f := by
  simp only [Filter.waits, deferrable, Filter.short, Bool.and_eq_true, Bool.not_eq_true'] at waits
  obtain ⟨⟨drop, defer⟩, root⟩ := waits
  have drop : s.durationMicros.lt (f.without s.spanId).dropBelow = false := drop
  have defer : s.durationMicros.lt (f.without s.spanId).deferBelow = true := defer
  simp only [pass, drop, defer, root, Bool.false_eq_true, if_false, if_true]
  exact ⟨trivial, rfl, rfl, rfl⟩

theorem pass_of_dropped (short : f.qualifies s = false) (waits : f.waits s = false) :
    (f.pass s host).1 = [] ∧
      (f.pass s host).2.1.pending = (f.without s.spanId).pending ∧
      (f.pass s host).2.1.Alike f := by
  cases drop : s.durationMicros.lt f.dropBelow with
  | true =>
    have drop : s.durationMicros.lt (f.without s.spanId).dropBelow = true := drop
    simp only [pass, drop, if_true]
    exact ⟨trivial, dropSpan_eq _⟩
  | false =>
    have defer : s.durationMicros.lt f.deferBelow = true := by
      simpa [qualifies, deferrable, Filter.short, drop] using short
    have root : s.isRoot = true := by
      simpa [Filter.waits, deferrable, Filter.short, drop, defer] using waits
    have drop : s.durationMicros.lt (f.without s.spanId).dropBelow = false := drop
    have defer : s.durationMicros.lt (f.without s.spanId).deferBelow = true := defer
    simp only [pass, drop, defer, root, Bool.false_eq_true, if_false, if_true]
    exact ⟨trivial, dropSpan_eq _⟩

/-- What a table of waiting spans holds after some reports: under an identifier not yet reported the
listing of its children, and under a reported one the spans below a span that is its own parent. -/
structure Lists (f : Filter) (done : List Span) (table : Int → List Span) : Prop where
  awaited : ∀ id, id ∉ done.map Span.spanId → f.PostOrder done (f.children done id) (table id)
  stuck : ∀ id, id ∈ done.map Span.spanId → ∀ s ∈ table id,
    ∃ t ∈ done, t.spanId = id ∧ t.parentId = id ∧ f.waits t = true ∧ f.Climbs done s t

section step

variable {done rest : List Span} {table : Int → List Span}

private theorem children_of_childrenFirst (ordered : ChildrenFirst (done ++ rest)) :
    ∀ t ∈ done, f.children rest t.spanId = [] := by
  intro t mem
  refine List.filter_eq_nil_iff.mpr fun c child waits => ?_
  simp only [Bool.and_eq_true, beq_iff_eq, Filter.waits, Bool.not_eq_true'] at waits
  exact (List.pairwise_append.mp ordered).2.2 t mem c child ⟨waits.1.2, waits.2⟩

private theorem Lists.nil : f.Lists [] fun _ => [] :=
  ⟨fun _ _ => .nil, fun _ mem => absurd mem List.not_mem_nil⟩

private theorem Lists.waiting_top (h : f.Lists done table) (distinct : (done.map Span.spanId).Nodup)
    {id : Int} (waiting : s ∈ table id) :
    ∃ t, f.waits t = true ∧ f.IsTop done t ∧ f.Climbs done s t := by
  by_cases known : id ∈ done.map Span.spanId
  · obtain ⟨t, mem, own, parent, waits, climb⟩ := h.stuck id known s waiting
    exact ⟨t, waits, isTop_of_own distinct mem (parent.trans own.symm), climb⟩
  · obtain ⟨t, child, climb⟩ := ((h.awaited id known).mem_iff (children_subset id)).mp waiting
    obtain ⟨-, waits, parent⟩ := mem_children.mp child
    exact ⟨t, waits, isTop_of_orphan (parent ▸ known), climb⟩

private theorem children_of_free (free : f.waits s = false) (id : Int) : f.children [s] id =
    [] := by
  simp [children, free]

private theorem Lists.later (h : f.Lists done table) {id : Int} (new : id ∉ done.map Span.spanId)
    (ordered : ChildrenFirst (done ++ rest)) :
    f.PostOrder (done ++ rest) (f.children done id) (table id) :=
  (h.awaited id new).extend (children_subset id) (children_of_childrenFirst ordered)

private theorem Lists.release (h : f.Lists done table) (ordered : ChildrenFirst (done ++ [s]))
    (free : f.waits s = false) :
    f.Lists (done ++ [s]) fun id => if id = s.spanId then [] else table id := by
  constructor
  · intro id new
    simp only [List.map_append, List.map_cons, List.map_nil, List.mem_append, List.mem_singleton,
      not_or] at new
    rw [if_neg new.2, children_append, children_of_free free, List.append_nil]
    exact h.later new.1 ordered
  · intro id known s' waiting
    by_cases same : id = s.spanId
    · simp [same] at waiting
    · simp only [List.map_append, List.map_cons, List.map_nil, List.mem_append,
        List.mem_singleton, same, or_false] at known
      rw [if_neg same] at waiting
      obtain ⟨t, mem, own, parent, waits, climb⟩ := h.stuck id known s' waiting
      exact ⟨t, List.mem_append_left _ mem, own, parent, waits, climb.append _⟩

private theorem Lists.hold (h : f.Lists done table) (new : s.spanId ∉ done.map Span.spanId)
    (ordered : ChildrenFirst (done ++ [s])) (waits : f.waits s = true) :
    f.Lists (done ++ [s]) fun id =>
      (if id = s.spanId then [] else table id) ++
        if id = s.parentId then table s.spanId ++ [s] else [] := by
  have child (id : Int) : f.children [s] id = if s.parentId = id then [s] else [] := by
    simp [children, waits, List.filter_cons]
  constructor
  · intro id strange
    simp only [List.map_append, List.map_cons, List.map_nil, List.mem_append, List.mem_singleton,
      not_or] at strange
    rw [if_neg strange.2, children_append, child]
    by_cases parent : id = s.parentId
    · -- the identifier is not the span's own, so the span's children are all known
      have below : f.PostOrder (done ++ [s]) (f.children (done ++ [s]) s.spanId)
          (table s.spanId) := by
        have other : s.parentId ≠ s.spanId := parent ▸ strange.2
        rw [children_append, child, if_neg other, List.append_nil]
        exact h.later new ordered
      rw [if_pos parent, if_pos parent.symm]
      exact (h.later strange.1 ordered).append (below.cons .nil)
    · rw [if_neg parent, if_neg (Ne.symm parent), List.append_nil, List.append_nil]
      exact h.later strange.1 ordered
  · intro id known s' waiting
    simp only [List.map_append, List.map_cons, List.map_nil, List.mem_append,
      List.mem_singleton] at known
    rcases known with old | rfl
    · have differ : id ≠ s.spanId := by
        rintro rfl
        exact new old
      have root : s.isRoot = false := by
        simp only [Filter.waits, Bool.and_eq_true, Bool.not_eq_true'] at waits
        exact waits.2
      have orphan : id ≠ s.parentId := by
        rintro rfl
        obtain ⟨t, mem, own⟩ := List.mem_map.mp old
        exact (List.pairwise_append.mp ordered).2.2 t mem s (List.mem_singleton_self s)
          ⟨root, own.symm⟩
      rw [if_neg differ, if_neg orphan, List.append_nil] at waiting
      obtain ⟨t, mem, own, parent, waits, climb⟩ := h.stuck id old s' waiting
      exact ⟨t, List.mem_append_left _ mem, own, parent, waits, climb.append _⟩
    · rw [if_pos rfl, List.nil_append] at waiting
      split at waiting
      case isFalse => cases waiting
      case isTrue own =>
        have mem : s ∈ done ++ [s] := List.mem_append_right _ (List.mem_singleton_self s)
        refine ⟨s, mem, rfl, own.symm, waits, ?_⟩
        rcases List.mem_append.mp waiting with below | same
        · obtain ⟨c, under, climb⟩ :=
            ((h.awaited s.spanId new).mem_iff (children_subset _)).mp below
          refine (climb.append [s]).tail ⟨mem, ?_⟩
          rw [children_append]
          exact List.mem_append_left _ under
        · rw [List.mem_singleton.mp same]
          exact .refl

theorem waitingFor_of_pending_eq {f' : Filter} (pending : f'.pending = f.pending) :
    f'.waitingFor = f.waitingFor := by
  funext id
  rw [waitingFor, waitingFor, pending]

private theorem Lists.pass (h : f.Lists done g.waitingFor) (alike : g.Alike f)
    (new : s.spanId ∉ done.map Span.spanId) (ordered : ChildrenFirst (done ++ [s])) (host : Host) :
    f.Lists (done ++ [s]) (g.pass s host).2.1.waitingFor := by
  obtain ⟨-, -, -, same⟩ := alike.classes
  have taken (id : Int) : (g.without s.spanId).waitingFor id =
      if id = s.spanId then [] else g.waitingFor id := waitingFor_without ..
  cases waits : f.waits s with
  | true =>
    have pending := (pass_of_waits (same ▸ waits) : _ ∧ (g.pass s host).2.1.pending = _ ∧ _).2.1
    have table : (g.pass s host).2.1.waitingFor = fun id =>
        (if id = s.spanId then [] else g.waitingFor id) ++
          if id = s.parentId then g.waitingFor s.spanId ++ [s] else [] := by
      funext id
      rw [waitingFor_of_append pending, taken]
    exact table ▸ h.hold new ordered waits
  | false =>
    have pending : (g.pass s host).2.1.pending = (g.without s.spanId).pending := by
      cases long : g.qualifies s with
      | true => exact (pass_of_qualifies long).2.1
      | false => exact (pass_of_dropped long (same ▸ waits)).2.1
    have table : (g.pass s host).2.1.waitingFor = fun id =>
        if id = s.spanId then [] else g.waitingFor id :=
      (waitingFor_of_pending_eq pending).trans (funext taken)
    exact table ▸ h.release ordered waits

theorem Alike.pass (alike : g.Alike f) (s : Span) (host : Host) : (g.pass s host).2.1.Alike f := by
  have kept : (g.pass s host).2.1.Alike g := by
    cases long : g.qualifies s with
    | true => exact (pass_of_qualifies long).2.2
    | false =>
      cases waits : g.waits s with
      | true => exact (pass_of_waits waits).2.2
      | false => exact (pass_of_dropped long waits).2.2
  exact ⟨kept.1.trans alike.1, kept.2.trans alike.2⟩

private theorem passAll_postOrder (h : f.Lists done g.waitingFor) (alike : g.Alike f)
    (distinct : ((done ++ rest).map Span.spanId).Nodup) (ordered : ChildrenFirst (done ++ rest))
    (host : Host) :
    f.PostOrder (done ++ rest) (rest.filter f.qualifies) (g.passAll rest host).1 ∧
      f.Lists (done ++ rest) (g.passAll rest host).2.1.waitingFor := by
  induction rest generalizing done g host with
  | nil =>
    rw [List.append_nil]
    exact ⟨.nil, h⟩
  | cons s rest ih =>
    have new : s.spanId ∉ done.map Span.spanId := by
      rw [List.map_append, List.map_cons] at distinct
      exact fun mem => List.disjoint_of_nodup_append distinct mem (List.mem_cons_self ..)
    have split : done ++ s :: rest = (done ++ [s]) ++ rest := by simp
    have first : ChildrenFirst (done ++ [s]) := by
      rw [split] at ordered
      exact (List.pairwise_append.mp ordered).1
    obtain ⟨later, table⟩ := ih (h.pass alike new first host) (alike.pass s host)
      (split ▸ distinct) (split ▸ ordered) (g.pass s host).2.2
    rw [← split] at later table
    refine ⟨?_, table⟩
    obtain ⟨-, -, longs, waits⟩ := alike.classes
    change f.PostOrder (done ++ s :: rest) ((s :: rest).filter f.qualifies)
      ((g.pass s host).1 ++ ((g.pass s host).2.1.passAll rest (g.pass s host).2.2).1)
    cases long : f.qualifies s with
    | true =>
      have free : f.waits s = false := by
        simp [Filter.waits, (qualifies_iff.mp long).2]
      have below : f.children (done ++ s :: rest) s.spanId = f.children done s.spanId := by
        have last : f.children rest s.spanId = [] :=
          children_of_childrenFirst (split ▸ ordered) s
            (List.mem_append_right _ (List.mem_singleton_self s))
        rw [split, children_append, children_append, children_of_free free, last, List.append_nil,
          List.append_nil]
      rw [List.filter_cons_of_pos long, (pass_of_qualifies (longs ▸ long)).1, List.append_assoc]
      exact .cons (below ▸ h.later new ordered) later
    | false =>
      have kept : (g.pass s host).1 = [] := by
        cases waiting : g.waits s with
        | true => exact (pass_of_waits waiting).1
        | false => exact (pass_of_dropped (longs ▸ long) waiting).1
      rw [List.filter_cons_of_neg (by simp [long]), kept]
      exact later

end step

end Filter

namespace Reporter

private theorem feed_memory (w : Watch) (kept spans : List Span) (h : Host) :
    feed (offerWithin 1) (.memory w kept) spans h = (.memory w (kept ++ spans), h) := by
  induction spans generalizing kept with
  | nil => simp [feed]
  | cons s rest ih =>
    simp only [feed, offerWithin, ih, List.append_assoc, List.cons_append, List.nil_append]

private theorem report_filtering (w w' : Watch) (f : Filter) (kept : List Span) (s : Span)
    (h : Host) :
    report (.filtering w f (.memory w' kept)) s h =
      (.filtering w (f.pass s h).2.1 (.memory w' (kept ++ (f.pass s h).1)), (f.pass s h).2.2) := by
  simp only [report, offer, depth, offerWithin, feed_memory]
  rfl

private theorem feedUntilFault_memory (w : Watch) (kept spans : List Span) (h : Host) :
    feedUntilFault (offerGivenWithin 1) (.memory w kept) spans h =
      (none, .memory w (kept ++ spans), h) := by
  induction spans generalizing kept with
  | nil => simp [feedUntilFault]
  | cons s rest ih =>
    have taken : offerGivenWithin 1 (.memory w kept) s h = (none, .memory w (kept ++ [s]), h) := rfl
    rw [feedUntilFault, taken]
    exact (ih _).trans (by rw [List.append_assoc, List.singleton_append])

private theorem reportGiven_filtering (w w' : Watch) {f : Filter} (numbers : f.misfits = [])
    (kept : List Span) {s : Span} (fits : s.misfits = []) (h : Host) :
    reportGiven (.filtering w f (.memory w' kept)) s h =
      (none, report (.filtering w f (.memory w' kept)) s h) := by
  have passed : f.passGiven s h = (.ok (f.pass s h).1, (f.pass s h).2.1, (f.pass s h).2.2) := by
    simp [Filter.passGiven, Filter.judges, Filter.isNumbered, Span.isKeyed, Span.isMeasured,
      Span.misfit?, fits, numbers]
  have offered : offerGivenWithin 2 (.filtering w f (.memory w' kept)) s h =
      (none, .filtering w (f.pass s h).2.1 (.memory w' (kept ++ (f.pass s h).1)),
        (f.pass s h).2.2) := by
    rw [offerGivenWithin, passed]
    simp only [feedUntilFault_memory]
  rw [report_filtering]
  simp only [reportGiven, depth, offered]
  rfl

private theorem misfits_pass (f : Filter) (s : Span) (h : Host) :
    (f.pass s h).2.1.misfits = f.misfits := by
  simp only [Filter.pass, Filter.dropSpan, Filter.dropHeld, Filter.holdBack, Filter.releaseHeld]
  split
  · split <;> rfl
  · split
    · split
      · split <;> rfl
      · rfl
    · split <;> rfl

private theorem feed_reportGiven_filtering (w w' : Watch) {f : Filter} (numbers : f.misfits = [])
    (kept : List Span) {spans : List Span} (fit : ∀ s ∈ spans, s.misfits = []) (h : Host) :
    feedUntilFault reportGiven (.filtering w f (.memory w' kept)) spans h =
      (none, feed report (.filtering w f (.memory w' kept)) spans h) := by
  induction spans generalizing f kept h with
  | nil => rfl
  | cons s rest ih =>
    obtain ⟨first, others⟩ := List.forall_mem_cons.mp fit
    rw [feedUntilFault, reportGiven_filtering w w' numbers kept first, feed, report_filtering]
    exact ih ((misfits_pass f s h).trans numbers) _ others _

theorem feed_report_filtering (w w' : Watch) (f : Filter) (kept spans : List Span) (h : Host) :
    feed report (.filtering w f (.memory w' kept)) spans h =
      (.filtering w (f.passAll spans h).2.1 (.memory w' (kept ++ (f.passAll spans h).1)),
        (f.passAll spans h).2.2) := by
  induction spans generalizing f kept h with
  | nil => simp [feed, Filter.passAll]
  | cons s rest ih =>
    rw [feed, report_filtering]
    simp only [ih, Filter.passAll, List.append_assoc]

end Reporter

namespace Filter

/-- The delegate of a filter receives the post-order listing below the spans that are long enough,
also where reports look for misfits and there are none. A deferrable span reaches it exactly if its
parent chain ends in a span that is long enough; it is dropped where the chain ends in a short span
or in a root, and held where the chain ends before an identifier that was not yet reported. -/
theorem delegate_receives_postOrder (f : Filter) (empty : f.pending = []) (w w' : Watch)
    (spans : List Span) (distinct : (spans.map Span.spanId).Nodup)
    (ordered : ChildrenFirst spans) (h : Host) :
    ∃ f' received,
      (Reporter.feed Reporter.report (.filtering w f (.memory w' [])) spans h).1 =
          .filtering w f' (.memory w' received) ∧
        (f.misfits = [] → (∀ s ∈ spans, s.misfits = []) →
          (Reporter.feedUntilFault Reporter.reportGiven (.filtering w f (.memory w' [])) spans
            h).2.1 = .filtering w f' (.memory w' received)) ∧
        f.PostOrder spans (spans.filter f.qualifies) received ∧
        ∀ s ∈ spans, f.deferrable s = true →
          (s ∈ received ↔ ∃ q ∈ spans, f.qualifies q = true ∧ f.Climbs spans s q) ∧
          ((∃ t ∈ spans, f.Climbs spans s t ∧
              (f.short t = true ∨ f.deferrable t = true ∧ t.isRoot = true)) →
            s ∉ received ∧ s ∉ f'.held) ∧
          ((∃ t ∈ spans, f.Climbs spans s t ∧ f.waits t = true ∧
              t.parentId ∉ spans.map Span.spanId) →
            s ∉ received ∧ s ∈ f'.held) := by
  have fresh : f.Lists [] f.waitingFor := by
    have table : f.waitingFor = fun _ => [] := by
      funext id
      simp [waitingFor, empty]
    exact table ▸ Lists.nil
  obtain ⟨listed, table⟩ := passAll_postOrder fresh ⟨rfl, rfl⟩ distinct ordered h
  rw [List.nil_append] at listed table
  refine ⟨(f.passAll spans h).2.1, (f.passAll spans h).1, ?_, fun numbers fit => ?_, listed,
    fun s mem deferred => ?_⟩
  · rw [Reporter.feed_report_filtering, List.nil_append]
  · rw [Reporter.feed_reportGiven_filtering w w' numbers [] fit h,
      Reporter.feed_report_filtering, List.nil_append]
  have received : s ∈ (f.passAll spans h).1 ↔
      ∃ q ∈ spans, f.qualifies q = true ∧ f.Climbs spans s q := by
    rw [listed.mem_iff (List.filter_subset_self _)]
    simp only [List.mem_filter, and_assoc]
  refine ⟨received, ?_, ?_⟩
  · rintro ⟨t, tmem, climb, ends⟩
    have free : f.waits t = false := by
      rcases ends with short | ⟨-, root⟩
      · simp [Filter.waits, deferrable, short]
      · simp [Filter.waits, root]
    constructor
    · rw [received]
      rintro ⟨q, qmem, long, climb'⟩
      have same := (isTop_of_free free).unique distinct (isTop_of_qualifies long) climb climb'
      rw [← same, qualifies_iff] at long
      rcases ends with short | ⟨deferrable, -⟩
      · simp [short] at long
      · simp [deferrable] at long
    · rw [mem_held]
      rintro ⟨id, waiting⟩
      obtain ⟨c, waits, top, climb'⟩ := table.waiting_top distinct waiting
      rw [(isTop_of_free free).unique distinct top climb climb', waits] at free
      cases free
  · rintro ⟨t, tmem, climb, waits, orphan⟩
    constructor
    · rw [received]
      rintro ⟨q, qmem, long, climb'⟩
      have same := (isTop_of_orphan orphan).unique distinct (isTop_of_qualifies long) climb climb'
      rw [same] at waits
      simp [Filter.waits, (qualifies_iff.mp long).2] at waits
    · rw [mem_held]
      refine ⟨t.parentId, ((table.awaited _ orphan).mem_iff (children_subset _)).mpr ?_⟩
      exact ⟨t, mem_children.mpr ⟨tmem, waits, rfl⟩, climb⟩

/-- Three generations, of which the youngest two wait for the eldest. -/
theorem generations_forwarded :
    let span (id parent duration : Int) : Span :=
      { traceId := 1, spanId := id, operation := .text "op", parentId := parent
        durationMicros := .integer duration }
    let f : Filter := { dropBelow := .integer 10, deferBelow := .integer 100, metered := true }
    let spans := [span 3 2 20, span 2 1 50, span 1 0 200]
    (∃ f', (Reporter.feed Reporter.report (.filtering {} f (.memory {} [])) spans {}).1 =
        .filtering {} f' (.memory {} spans)) ∧
      f.PostOrder spans [span 1 0 200] spans := by
  intro span f spans
  have ordered : ChildrenFirst spans := by
    unfold ChildrenFirst
    decide
  obtain ⟨f', received, run, -, listed, -⟩ :=
    delegate_receives_postOrder f rfl {} {} spans (by decide) ordered {}
  have forwarded : received = spans := by
    rw [Reporter.feed_report_filtering] at run
    injection run with _ _ delegate
    injection delegate with _ same
    exact same.symm
  rw [forwarded] at run listed
  exact ⟨⟨f', run⟩, listed⟩

end Filter

end Tracing
