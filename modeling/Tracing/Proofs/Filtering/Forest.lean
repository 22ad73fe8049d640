import Mathlib.Tactic
import Tracing.Delivery.Reporter
/-!
Reported spans as a forest. The children of a span are the spans held back that name it as their
parent; listing the children of a span in post-order follows the deferrable spans under it and stops
at all others.
-/

set_option autoImplicit false
set_option relaxedAutoImplicit false

namespace Tracing

def ChildrenFirst (spans : List Span) : Prop :=
  spans.Pairwise fun earlier later => ¬ (later.isRoot = false ∧ later.parentId = earlier.spanId)

namespace Filter

def short (f : Filter) (s : Span) : Bool := s.durationMicros.lt f.dropBelow

/-- Forwarded under a longer span only. -/
def deferrable (f : Filter) (s : Span) : Bool := !f.short s && s.durationMicros.lt f.deferBelow

def qualifies (f : Filter) (s : Span) : Bool := !f.short s && !f.deferrable s

def waits (f : Filter) (s : Span) : Bool := f.deferrable s && !s.isRoot

/-- The spans that wait for an identifier, in the order of their reports. -/
def children (f : Filter) (spans : List Span) (id : Int) : List Span :=
  spans.filter fun s => f.waits s && s.parentId == id

/-- The spans under some siblings, each after all that are listed under it. -/
inductive PostOrder (f : Filter) (spans : List Span) : List Span → List Span → Prop
  | nil : PostOrder f spans [] []
  | cons {s : Span} {siblings below listed : List Span} :
      PostOrder f spans (f.children spans s.spanId) below → PostOrder f spans siblings listed →
      PostOrder f spans (s :: siblings) (below ++ s :: listed)

/-- One span waits for another that was reported. -/
def Under (f : Filter) (spans : List Span) (s t : Span) : Prop :=
  t ∈ spans ∧ s ∈ f.children spans t.spanId

/-- The parent chain of a span, through waiting spans only, up to another. -/
def Climbs (f : Filter) (spans : List Span) : Span → Span → Prop :=
  Relation.ReflTransGen (f.Under spans)

variable {f : Filter} {spans : List Span} {s t : Span}

/-- A span is short, deferrable or long enough, and one of them only. -/
theorem qualifies_iff : f.qualifies s = true ↔ f.short s = false ∧ f.deferrable s = false := by
  simp [qualifies]

theorem mem_children {id : Int} :
    s ∈ f.children spans id ↔ s ∈ spans ∧ f.waits s = true ∧ s.parentId = id := by
  simp [children]

theorem children_subset (id : Int) : f.children spans id ⊆ spans :=
  fun _ child => (mem_children.mp child).1

@[simp] theorem children_append (before after : List Span) (id : Int) :
    f.children (before ++ after) id = f.children before id ++ f.children after id :=
  List.filter_append ..

private theorem climbs_iff (mem : t ∈ spans) :
    f.Climbs spans s t ↔ s = t ∨ ∃ c ∈ f.children spans t.spanId, f.Climbs spans s c := by
  constructor
  · intro climb
    rcases Relation.ReflTransGen.cases_tail climb with rfl | ⟨c, climb, -, child⟩
    · exact .inl rfl
    · exact .inr ⟨c, child, climb⟩
  · rintro (rfl | ⟨c, child, climb⟩)
    · exact .refl
    · exact climb.tail ⟨mem, child⟩

theorem Climbs.append (climb : f.Climbs spans s t) (later : List Span) :
    f.Climbs (spans ++ later) s t := by
  refine Relation.ReflTransGen.mono ?_ _ _ climb
  rintro c p ⟨mem, child⟩
  refine ⟨List.mem_append_left _ mem, ?_⟩
  rw [children_append]
  exact List.mem_append_left _ child

private theorem climbs_total {u : Span} (distinct : (spans.map Span.spanId).Nodup)
    (ht : f.Climbs spans s t) (hu : f.Climbs spans s u) :
    f.Climbs spans t u ∨ f.Climbs spans u t := by
  refine Relation.ReflTransGen.total_of_right_unique ?_ ht hu
  rintro c p q ⟨hp, cp⟩ ⟨hq, cq⟩
  have same : p.spanId = q.spanId :=
    (mem_children.mp cp).2.2.symm.trans (mem_children.mp cq).2.2
  exact List.inj_on_of_nodup_map distinct hp hq same

/-- A parent chain ends at a span that waits for no other reported one. -/
def IsTop (f : Filter) (spans : List Span) (t : Span) : Prop := ∀ p, f.Under spans t p → p = t

theorem isTop_of_free (free : f.waits t = false) : f.IsTop spans t := by
  rintro p ⟨-, child⟩
  simp [(mem_children.mp child).2.1] at free

theorem isTop_of_qualifies (long : f.qualifies t = true) : f.IsTop spans t :=
  isTop_of_free (by simp [waits, (qualifies_iff.mp long).2])

theorem isTop_of_orphan (orphan : t.parentId ∉ spans.map Span.spanId) : f.IsTop spans t := by
  rintro p ⟨mem, child⟩
  rw [(mem_children.mp child).2.2] at orphan
  exact absurd (List.mem_map_of_mem mem) orphan

theorem isTop_of_own (distinct : (spans.map Span.spanId).Nodup) (mem : t ∈ spans)
    (own : t.parentId = t.spanId) : f.IsTop spans t := by
  rintro p ⟨mem', child⟩
  exact List.inj_on_of_nodup_map distinct mem' mem ((mem_children.mp child).2.2.symm.trans own)

private theorem IsTop.eq_of_climbs {u : Span} (top : f.IsTop spans t) (climb : f.Climbs spans t u) :
    u = t := by
  induction climb with
  | refl => rfl
  | tail _ up ih => exact top _ (ih ▸ up)

theorem IsTop.unique {u : Span} (distinct : (spans.map Span.spanId).Nodup)
    (top : f.IsTop spans t) (top' : f.IsTop spans u) (ht : f.Climbs spans s t)
    (hu : f.Climbs spans s u) : t = u := by
  rcases climbs_total distinct ht hu with climb | climb
  · exact (top.eq_of_climbs climb).symm
  · exact top'.eq_of_climbs climb

namespace PostOrder

theorem unique {siblings listed other : List Span} (h : f.PostOrder spans siblings listed)
    (h' : f.PostOrder spans siblings other) : listed = other := by
  induction h generalizing other with
  | nil =>
    cases h'
    rfl
  | cons _ _ under ih =>
    cases h' with
    | cons below rest => rw [under below, ih rest]

theorem append {xs ys below above : List Span} (h : f.PostOrder spans xs below)
    (h' : f.PostOrder spans ys above) : f.PostOrder spans (xs ++ ys) (below ++ above) := by
  induction h with
  | nil => exact h'
  | @cons s siblings below listed under _ _ ih =>
    rw [List.cons_append, List.append_assoc, List.cons_append]
    exact under.cons ih

/-- Spans that are no children of those listed change no listing. -/
theorem extend {later siblings listed : List Span} (h : f.PostOrder spans siblings listed)
    (known : siblings ⊆ spans) (strange : ∀ s ∈ spans, f.children later s.spanId = []) :
    f.PostOrder (spans ++ later) siblings listed := by
  induction h with
  | nil => exact .nil
  | @cons s siblings below listed _ _ under ih =>
    obtain ⟨mem, rest⟩ := List.cons_subset.mp known
    refine .cons ?_ (ih rest)
    rw [children_append, strange s mem, List.append_nil]
    exact under (children_subset _)

/-- The listed spans are those whose parent chain reaches one of the siblings. -/
theorem mem_iff {siblings listed : List Span} (h : f.PostOrder spans siblings listed)
    (known : siblings ⊆ spans) : s ∈ listed ↔ ∃ t ∈ siblings, f.Climbs spans s t := by
  induction h with
  | nil => simp
  | @cons t siblings below listed _ _ under ih =>
    obtain ⟨mem, rest⟩ := List.cons_subset.mp known
    rw [List.mem_append, List.mem_cons, under (children_subset _), ih rest]
    simp only [List.mem_cons, exists_eq_or_imp]
    rw [climbs_iff mem, or_assoc, or_left_comm]

end PostOrder

end Filter

end Tracing
