import Tracing.Sampling.Sampler
/-!
Equality of numbers and of samplers. A number equals another where both have one place on the
extended line, and samplers with equal parameters are filed under equal keys.
-/

set_option autoImplicit false
set_option relaxedAutoImplicit false

namespace Tracing

namespace Binary64

theorem eq_iff {x y : Binary64} :
    x.eq y = true ↔ ∃ a, x.extended? = some a ∧ y.extended? = some a := by
  unfold eq
  cases x.extended? with
  | none => simp
  | some a =>
    cases y.extended? with
    | none => simp
    | some b =>
      constructor
      · intro same
        cases beq_iff_eq.mp same
        exact ⟨a, rfl, rfl⟩
      · rintro ⟨c, ⟨⟩, ⟨⟩⟩
        exact beq_self_eq_true a

theorem eq_symm {x y : Binary64} (h : x.eq y = true) : y.eq x = true := by
  obtain ⟨a, hx, hy⟩ := eq_iff.mp h
  exact eq_iff.mpr ⟨a, hy, hx⟩

theorem extended?_eq_of_eq {x y : Binary64} (h : x.eq y = true) :
    x.extended? = y.extended? := by
  obtain ⟨a, hx, hy⟩ := eq_iff.mp h
  exact hx.trans hy.symm

theorem eq_of_extended? {x y : Binary64} (proper : y.extended? ≠ none)
    (h : x.extended? = y.extended?) : x.eq y = true := by
  obtain ⟨a, place⟩ := Option.ne_none_iff_exists'.mp proper
  exact eq_iff.mpr ⟨a, h.trans place, place⟩

end Binary64

namespace Sampler

variable {a b : Sampler}

theorem hashKey?_eq_of_beq (h : (a == b) = true) : a.hashKey? = b.hashKey? := by
  cases b with
  | const decision =>
    cases a with
    | const own => exact congrArg (fun d => hashKey? (.const d)) (beq_iff_eq.mp h)
    | _ => cases h
  | probabilistic rate =>
    cases a with
    | probabilistic own =>
      have same : own.value.eq rate.value = true := h
      simp only [hashKey?, Binary64.extended?_eq_of_eq same]
    | _ => cases h
  | rateLimiting t =>
    cases a with
    | rateLimiting own =>
      have same : own.limit.eq t.limit = true := h
      simp only [hashKey?, Binary64.extended?_eq_of_eq same]
    | _ => cases h
  | guaranteed g =>
    cases a with
    | guaranteed own =>
      obtain ⟨rates, bounds⟩ := Bool.and_eq_true_iff.mp h
      simp only [hashKey?, Binary64.extended?_eq_of_eq rates, Binary64.extended?_eq_of_eq bounds]
    | _ => cases h
  | perOperation table =>
    cases a with
    | perOperation => rfl
    | _ => cases h
  | remote control watch delegate =>
    cases a with
    | remote => rfl
    | _ => cases h

/-- Samplers that are filed under the same numbers, none of them missing, are equal. -/
theorem beq_of_hashKey? {kind : SamplerKind} {numbers : List (Option Extended)}
    (key : b.hashKey? = some (kind, numbers)) (proper : none ∉ numbers)
    (h : a.hashKey? = b.hashKey?) : (a == b) = true := by
  cases b with
  | const decision =>
    cases a with
    | const own =>
      have same : own = decision := by
        cases own <;> cases decision <;> simp [hashKey?] at h ⊢
      show (own == decision) = true
      exact beq_iff_eq.mpr same
    | _ => cases h
  | probabilistic rate =>
    cases a with
    | probabilistic own =>
      cases key
      have there : rate.value.extended? ≠ none := (List.ne_of_not_mem_cons proper).symm
      have same : own.value.extended? = rate.value.extended? := by simpa [hashKey?] using h
      exact Binary64.eq_of_extended? there same
    | _ => cases h
  | rateLimiting t =>
    cases a with
    | rateLimiting own =>
      cases key
      have there : t.limit.extended? ≠ none := (List.ne_of_not_mem_cons proper).symm
      have same : own.limit.extended? = t.limit.extended? := by simpa [hashKey?] using h
      exact Binary64.eq_of_extended? there same
    | _ => cases h
  | guaranteed g =>
    cases a with
    | guaranteed own =>
      cases key
      have thereRate : g.rate.value.extended? ≠ none := (List.ne_of_not_mem_cons proper).symm
      have thereBound : g.floor.limit.extended? ≠ none :=
        (List.ne_of_not_mem_cons (List.not_mem_of_not_mem_cons proper)).symm
      obtain ⟨rates, bounds⟩ : own.rate.value.extended? = g.rate.value.extended? ∧
          own.floor.limit.extended? = g.floor.limit.extended? := by simpa [hashKey?] using h
      exact Bool.and_eq_true_iff.mpr ⟨Binary64.eq_of_extended? thereRate rates,
        Binary64.eq_of_extended? thereBound bounds⟩
    | _ => cases h
  | perOperation table => cases key
  | remote control watch delegate => cases key

end Sampler

end Tracing
