import Tracing.Proofs.Filtering.Forwarding
/-!
Several traces behind one filter. Held spans wait for an identifier, whatever trace its span is of.
A trace is treated as if it were reported alone exactly as long as no span of another trace comes
under an identifier that one of its own spans waits for.
-/

set_option autoImplicit false
set_option relaxedAutoImplicit false

namespace Tracing

def ofTrace (trace : Int) (spans : List Span) : List Span := spans.filter (·.traceId == trace)

namespace Filter

/-- A span of a trace waits for an identifier that no later span of the trace has. -/
def Awaited (f : Filter) (trace : Int) (spans : List Span) (id : Int) : Prop :=
  ∃ before s after, spans = before ++ s :: after ∧ s.traceId = trace ∧ f.waits s = true ∧
    s.parentId = id ∧ ∀ t ∈ after, t.traceId = trace → t.spanId ≠ id

/-- No span of another trace comes under an identifier that the trace waits for, unless it holds
back under the same identifier what it takes from there. -/
def Undisturbed (f : Filter) (trace : Int) (spans : List Span) : Prop :=
  ∀ before s after, spans = before ++ s :: after → s.traceId ≠ trace →
    f.Awaited trace before s.spanId → f.waits s = true ∧ s.parentId = s.spanId

/-- The spans of a trace that one filter holds are those that another one holds. -/
def Agrees (g : Filter) (trace : Int) (alone : Filter) : Prop :=
  ∀ id, ofTrace trace (g.waitingFor id) = alone.waitingFor id

/-- What is forwarded and held of a trace is what would be if the trace were reported alone. -/
structure Separates (f : Filter) (trace : Int) (spans : List Span) (h : Host) : Prop where
  forwarded : ofTrace trace (f.passAll spans h).1 = (f.passAll (ofTrace trace spans) h).1
  agrees : (f.passAll spans h).2.1.Agrees trace (f.passAll (ofTrace trace spans) h).2.1

variable {f g alone : Filter} {s : Span} {trace id : Int} {spans : List Span} {h : Host}

@[simp] theorem ofTrace_nil : ofTrace trace [] = [] := rfl

@[simp] theorem ofTrace_append (before after : List Span) :
    ofTrace trace (before ++ after) = ofTrace trace before ++ ofTrace trace after :=
  List.filter_append ..

private theorem ofTrace_own (own : s.traceId = trace) : ofTrace trace [s] = [s] := by
  simp [ofTrace, own]

private theorem ofTrace_foreign (foreign : s.traceId ≠ trace) : ofTrace trace [s] = [] := by
  simp [ofTrace, foreign]

private theorem passAll_concat (f : Filter) (spans : List Span) (s : Span) (h : Host) :
    f.passAll (spans ++ [s]) h =
      ((f.passAll spans h).1 ++ ((f.passAll spans h).2.1.pass s (f.passAll spans h).2.2).1,
        ((f.passAll spans h).2.1.pass s (f.passAll spans h).2.2).2) := by
  induction spans generalizing f h with
  | nil => simp [passAll]
  | cons first rest ih =>
    simp only [List.cons_append, passAll, ih, List.append_assoc]

private theorem Alike.passAll (alike : g.Alike f) (spans : List Span) (h : Host) :
    (g.passAll spans h).2.1.Alike f := by
  induction spans generalizing g h with
  | nil => exact alike
  | cons s rest ih => exact ih (alike.pass s h) _

private theorem forwarded_pass (g : Filter) (s : Span) (h : Host) :
    (g.pass s h).1 = if g.qualifies s then g.waitingFor s.spanId ++ [s] else [] := by
  cases long : g.qualifies s with
  | true => exact (pass_of_qualifies long).1
  | false =>
    cases waits : g.waits s with
    | true => exact (pass_of_waits waits).1
    | false => exact (pass_of_dropped long waits).1

private theorem split_concat {before after : List Span} {t : Span}
    (same : spans ++ [s] = before ++ t :: after) :
    before = spans ∧ t = s ∧ after = [] ∨
      ∃ rest, after = rest ++ [s] ∧ spans = before ++ t :: rest := by
  rcases List.eq_nil_or_concat after with rfl | ⟨rest, last, rfl⟩
  · obtain ⟨init, ends⟩ := List.append_inj' same rfl
    exact .inl ⟨init.symm, (List.cons.inj ends).1.symm, rfl⟩
  · rw [List.concat_eq_append, ← List.cons_append, ← List.append_assoc] at same
    obtain ⟨init, ends⟩ := List.append_inj' same rfl
    rw [List.concat_eq_append, (List.cons.inj ends).1]
    exact .inr ⟨rest, rfl, init⟩

private theorem waitingFor_pass (g : Filter) (s : Span) (h : Host) (id : Int) :
    (g.pass s h).2.1.waitingFor id =
      (if id = s.spanId then [] else g.waitingFor id) ++
        if g.waits s = true ∧ id = s.parentId then g.waitingFor s.spanId ++ [s] else [] := by
  cases waits : g.waits s with
  | true =>
    rw [waitingFor_of_append (pass_of_waits waits).2.1, waitingFor_without]
    simp
  | false =>
    have pending : (g.pass s h).2.1.pending = (g.without s.spanId).pending := by
      cases long : g.qualifies s with
      | true => exact (pass_of_qualifies long).2.1
      | false => exact (pass_of_dropped long waits).2.1
    rw [waitingFor_of_pending_eq pending, waitingFor_without]
    simp

section Awaiting

private theorem awaited_nil : ¬ f.Awaited trace [] id := by
  rintro ⟨before, s, after, same, -⟩
  simp at same

private theorem awaited_foreign (foreign : s.traceId ≠ trace) :
    f.Awaited trace (spans ++ [s]) id ↔ f.Awaited trace spans id := by
  constructor
  · rintro ⟨before, t, after, same, own, waits, parent, later⟩
    rcases split_concat same with ⟨-, rfl, -⟩ | ⟨rest, rfl, split⟩
    · exact absurd own foreign
    · exact ⟨before, t, rest, split, own, waits, parent,
        fun u m => later u (List.mem_append_left _ m)⟩
  · rintro ⟨before, t, after, rfl, own, waits, parent, later⟩
    refine ⟨before, t, after ++ [s], by simp, own, waits, parent, fun u m own' => ?_⟩
    rcases List.mem_append.mp m with m | m
    · exact later u m own'
    · rw [List.mem_singleton.mp m] at own'
      exact absurd own' foreign

private theorem awaited_own (own : s.traceId = trace) :
    f.Awaited trace (spans ++ [s]) id ↔
      f.waits s = true ∧ s.parentId = id ∨ f.Awaited trace spans id ∧ s.spanId ≠ id := by
  constructor
  · rintro ⟨before, t, after, same, own', waits, parent, later⟩
    rcases split_concat same with ⟨-, rfl, -⟩ | ⟨rest, rfl, split⟩
    · exact .inl ⟨waits, parent⟩
    · have unmet := later s (List.mem_append_right _ (List.mem_singleton_self s)) own
      exact .inr ⟨⟨before, t, rest, split, own', waits, parent,
        fun u m => later u (List.mem_append_left _ m)⟩, unmet⟩
  · rintro (⟨waits, parent⟩ | ⟨⟨before, t, after, rfl, own', waits, parent, later⟩, other⟩)
    · exact ⟨spans, s, [], rfl, own, waits, parent, fun u m => absurd m List.not_mem_nil⟩
    · refine ⟨before, t, after ++ [s], by simp, own', waits, parent, fun u m => ?_⟩
      rcases List.mem_append.mp m with m | m
      · exact later u m
      · rw [List.mem_singleton.mp m]
        exact fun _ => other

private theorem awaited_iff (empty : f.pending = []) (trace : Int) (spans : List Span) (h : Host)
    (id : Int) : f.Awaited trace spans id ↔
      (f.passAll (ofTrace trace spans) h).2.1.waitingFor id ≠ [] := by
  induction spans using List.reverseRecOn generalizing id with
  | nil =>
    have none : f.waitingFor id = [] := by simp [waitingFor, empty]
    simp [awaited_nil, passAll, none]
  | append_singleton spans s ih =>
    -- what a trace waits for changes with its own spans only, and so does what is held of it alone
    rw [ofTrace_append]
    by_cases own : s.traceId = trace
    · obtain ⟨-, -, -, waits⟩ := (Alike.passAll (f := f) ⟨rfl, rfl⟩ (ofTrace trace spans) h).classes
      rw [awaited_own own, ofTrace_own own, passAll_concat, waitingFor_pass, waits, ih]
      simp only [eq_comm (a := id)]
      by_cases self : s.spanId = id <;> by_cases parent : s.parentId = id <;>
        cases f.waits s <;> simp [self, parent]
    · rw [awaited_foreign own, ofTrace_foreign own, List.append_nil, ih]

end Awaiting

section Steps

private theorem Agrees.own (agrees : g.Agrees trace alone) (alike : g.Alike alone)
    (own : s.traceId = trace) (h h' : Host) :
    ofTrace trace (g.pass s h).1 = (alone.pass s h').1 ∧
      (g.pass s h).2.1.Agrees trace (alone.pass s h').2.1 := by
  obtain ⟨-, -, longs, waits⟩ := alike.classes
  constructor
  · rw [forwarded_pass, forwarded_pass, longs]
    split
    · rw [ofTrace_append, agrees, ofTrace_own own]
    · rfl
  · intro id
    rw [waitingFor_pass, waitingFor_pass, waits, ofTrace_append]
    congr 1
    · split
      · rfl
      · exact agrees id
    · split
      · rw [ofTrace_append, agrees, ofTrace_own own]
      · rfl

/-- A span of another trace leaves what is held of a trace exactly if nothing of the trace waits
for it, or what does stays where it is. -/
private theorem Agrees.foreign_iff (agrees : g.Agrees trace alone) (foreign : s.traceId ≠ trace)
    (h : Host) :
    (ofTrace trace (g.pass s h).1 = [] ∧ (g.pass s h).2.1.Agrees trace alone) ↔
      (alone.waitingFor s.spanId ≠ [] → g.waits s = true ∧ s.parentId = s.spanId) := by
  constructor
  · rintro ⟨-, agrees'⟩ waiting
    by_contra moved
    -- what waited under the identifier is gone from there
    have taken := agrees' s.spanId
    have elsewhere : ¬ (g.waits s = true ∧ s.spanId = s.parentId) := fun stays =>
      moved ⟨stays.1, stays.2.symm⟩
    rw [waitingFor_pass, if_pos rfl, if_neg elsewhere] at taken
    exact waiting taken.symm
  · intro stays
    by_cases none : alone.waitingFor s.spanId = []
    · have nothing (c : Prop) [Decidable c] :
          ofTrace trace (if c then g.waitingFor s.spanId ++ [s] else []) = [] := by
        split
        · rw [ofTrace_append, agrees, none, ofTrace_foreign foreign, List.append_nil]
        · rfl
      constructor
      · rw [forwarded_pass]
        exact nothing _
      · intro id
        rw [waitingFor_pass, ofTrace_append, nothing, List.append_nil]
        split
        case isTrue self => rw [self, none, ofTrace_nil]
        case isFalse => exact agrees id
    · obtain ⟨waits, own⟩ := stays none
      constructor
      · rw [(pass_of_waits waits).1]
        rfl
      · intro id
        rw [waitingFor_pass, ofTrace_append]
        by_cases self : id = s.spanId
        · simp [self, own, waits, agrees s.spanId, ofTrace_foreign foreign]
        · simp [self, own, agrees id]

end Steps

private theorem separates_nil (empty : f.pending = []) : f.Separates trace [] h where
  forwarded := rfl
  agrees id := by simp [passAll, waitingFor, empty]

private theorem Separates.concat_iff (separates : f.Separates trace spans h)
    (empty : f.pending = []) :
    f.Separates trace (spans ++ [s]) h ↔
      (s.traceId ≠ trace → f.Awaited trace spans s.spanId →
        f.waits s = true ∧ s.parentId = s.spanId) := by
  have mixed : (f.passAll spans h).2.1.Alike f := Alike.passAll ⟨rfl, rfl⟩ spans h
  have alone : (f.passAll (ofTrace trace spans) h).2.1.Alike f := Alike.passAll ⟨rfl, rfl⟩ _ h
  by_cases own : s.traceId = trace
  · refine iff_of_true ?_ fun foreign => absurd own foreign
    have alike := And.intro (mixed.1.trans alone.1.symm) (mixed.2.trans alone.2.symm)
    obtain ⟨forwarded, agrees⟩ := separates.agrees.own alike own (f.passAll spans h).2.2
      (f.passAll (ofTrace trace spans) h).2.2
    constructor
    · rw [ofTrace_append, ofTrace_own own, passAll_concat, passAll_concat, ofTrace_append,
        separates.forwarded, forwarded]
    · rw [ofTrace_append, ofTrace_own own, passAll_concat, passAll_concat]
      exact agrees
  · obtain ⟨-, -, -, waits⟩ := mixed.classes
    have step := separates.agrees.foreign_iff own (f.passAll spans h).2.2
    rw [waits, ← awaited_iff empty] at step
    constructor
    · rintro ⟨forwarded, agrees⟩ -
      rw [ofTrace_append, ofTrace_foreign own, List.append_nil, passAll_concat] at forwarded agrees
      refine step.mp ⟨?_, agrees⟩
      rw [ofTrace_append, separates.forwarded] at forwarded
      exact List.append_right_eq_self.mp forwarded
    · intro stays
      obtain ⟨none, agrees⟩ := step.mpr (stays own)
      constructor
      · rw [ofTrace_append, ofTrace_foreign own, List.append_nil, passAll_concat, ofTrace_append,
          none, List.append_nil, separates.forwarded]
      · rw [ofTrace_append, ofTrace_foreign own, List.append_nil, passAll_concat]
        exact agrees

private theorem undisturbed_nil : f.Undisturbed trace [] := by
  intro before s after same
  simp at same

private theorem undisturbed_concat_iff : f.Undisturbed trace (spans ++ [s]) ↔
    f.Undisturbed trace spans ∧
      (s.traceId ≠ trace → f.Awaited trace spans s.spanId →
        f.waits s = true ∧ s.parentId = s.spanId) := by
  constructor
  · intro undisturbed
    refine ⟨fun before t after same => ?_, undisturbed spans s [] rfl⟩
    exact undisturbed before t (after ++ [s]) (by simp [same])
  · rintro ⟨undisturbed, last⟩ before t after same
    rcases split_concat same with ⟨rfl, rfl, -⟩ | ⟨rest, -, split⟩
    · exact last
    · exact undisturbed before t rest split

private theorem separates_iff (empty : f.pending = []) (trace : Int) (spans : List Span)
    (h : Host) :
    (∀ reported, reported <+: spans → f.Separates trace reported h) ↔
      f.Undisturbed trace spans := by
  induction spans using List.reverseRecOn with
  | nil =>
    refine iff_of_true (fun reported within => ?_) undisturbed_nil
    rw [List.prefix_nil.mp within]
    exact separates_nil empty
  | append_singleton spans s ih =>
    rw [undisturbed_concat_iff, ← ih]
    constructor
    · intro all
      have before : ∀ reported, reported <+: spans → f.Separates trace reported h :=
        fun reported within => all reported (within.trans (List.prefix_append ..))
      exact ⟨before, ((before spans List.prefix_rfl).concat_iff empty).mp
        (all _ List.prefix_rfl)⟩
    · rintro ⟨before, last⟩ reported within
      rcases List.prefix_concat_iff.mp within with rfl | within
      · exact ((before spans List.prefix_rfl).concat_iff empty).mpr last
      · exact before reported within

/-- The delegate receives of a trace what it would receive if the trace were reported alone, and
the filter holds of it what it would hold then, after every report of an interleaving exactly if
no span of another trace comes under an identifier that the trace waits for. -/
theorem received_alone_iff_undisturbed (f : Filter) (empty : f.pending = []) (w w' : Watch)
    (trace : Int) (spans : List Span) (h : Host) :
    (∀ reported, reported <+: spans → ∃ g received g' alone,
      (Reporter.feed Reporter.report (.filtering w f (.memory w' [])) reported h).1 =
          .filtering w g (.memory w' received) ∧
        (Reporter.feed Reporter.report (.filtering w f (.memory w' []))
            (ofTrace trace reported) h).1 = .filtering w g' (.memory w' alone) ∧
        ofTrace trace received = alone ∧ g.Agrees trace g') ↔
      f.Undisturbed trace spans := by
  rw [← separates_iff empty trace spans h]
  simp only [Reporter.feed_report_filtering, List.nil_append]
  constructor
  · intro apart reported within
    obtain ⟨g, received, g', alone, run, run', forwarded, agrees⟩ := apart reported within
    injection run with _ filter delegate
    injection delegate with _ memory
    injection run' with _ filter' delegate'
    injection delegate' with _ memory'
    subst filter memory filter' memory'
    exact ⟨forwarded, agrees⟩
  · intro separates reported within
    obtain ⟨forwarded, agrees⟩ := separates reported within
    exact ⟨_, _, _, _, rfl, rfl, forwarded, agrees⟩

/-- Two traces use the same identifiers. The parent in the first one takes along the children in
both. -/
theorem first_undisturbed_second_not :
    let span (trace id parent duration : Int) : Span :=
      { traceId := trace, spanId := id, operation := .text "op", parentId := parent
        durationMicros := .integer duration }
    let f : Filter := { dropBelow := .integer 0, deferBelow := .integer 100, metered := true }
    let spans := [span 1 3 2 20, span 2 3 2 20, span 1 2 0 200]
    (∃ g received, (Reporter.feed Reporter.report (.filtering {} f (.memory {} [])) spans {}).1 =
        .filtering {} g (.memory {} received) ∧
      ofTrace 1 received = [span 1 3 2 20, span 1 2 0 200]) ∧
    ¬ f.Undisturbed 2 spans := by
  intro span f spans
  have first : f.Undisturbed 1 spans := by
    have child : f.Undisturbed 1 ([] ++ [span 1 3 2 20]) :=
      undisturbed_concat_iff.mpr ⟨undisturbed_nil, fun foreign => absurd rfl foreign⟩
    have other : f.Undisturbed 1 ([span 1 3 2 20] ++ [span 2 3 2 20]) := by
      refine undisturbed_concat_iff.mpr ⟨child, fun _ awaited => ?_⟩
      rw [awaited_iff rfl 1 _ {}] at awaited
      exact absurd rfl awaited
    have parent : f.Undisturbed 1 ([span 1 3 2 20, span 2 3 2 20] ++ [span 1 2 0 200]) :=
      undisturbed_concat_iff.mpr ⟨other, fun foreign => absurd rfl foreign⟩
    exact parent
  constructor
  · obtain ⟨g, received, g', alone, run, run', same, -⟩ :=
      (received_alone_iff_undisturbed f rfl {} {} 1 spans {}).mpr first spans List.prefix_rfl
    refine ⟨g, received, run, same.trans ?_⟩
    injection run' with _ _ delegate
    injection delegate with _ memory
    exact memory.symm
  · intro second
    obtain ⟨g, received, g', alone, run, run', same, -⟩ :=
      (received_alone_iff_undisturbed f rfl {} {} 2 spans {}).mpr second spans List.prefix_rfl
    injection run with _ _ delegate
    injection delegate with _ memory
    injection run' with _ _ delegate'
    injection delegate' with _ memory'
    subst memory memory'
    cases same

end Filter

end Tracing
