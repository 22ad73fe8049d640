import Tracing.Proofs.Sampling.Convergence
import Tracing.Proofs.Sampling.TableRun
/-!
Numbers that are in force already change nothing when they are applied once more, be they written as
before or as other numbers equal to them. A table keeps its entries with their credits and lets no
operation in, and a strategy for all operations alike asks for a sampler equal to the one in force.
-/

set_option autoImplicit false
set_option relaxedAutoImplicit false

namespace Tracing

/-- Parameters with equal numbers for the same operations in the same order. -/
structure OperationParameters.Same (p q : OperationParameters) : Prop where
  rate : p.defaultRate.eq q.defaultRate = true
  bound : p.defaultLowerBound.eq q.defaultLowerBound = true
  operations : List.Forall₂ (fun a b => a.1 = b.1 ∧ a.2.eq b.2 = true) p.operations q.operations

/-- Documents that are equal member by member. -/
structure Strategy.Same (s s' : Strategy) : Prop where
  kind : s.kind = s'.kind
  probabilistic : Option.Rel (fun x y => x.eq y = true) s.probabilistic s'.probabilistic
  rateLimiting : Option.Rel (fun x y => x.eq y = true) s.rateLimiting s'.rateLimiting
  operations : Option.Rel OperationParameters.Same s.operations s'.operations

namespace OperationParameters

variable {p q : OperationParameters}

private theorem lookup_same {xs ys : List (String × Binary64)}
    (same : List.Forall₂ (fun a b => a.1 = b.1 ∧ a.2.eq b.2 = true) xs ys) (name : String) :
    Option.Rel (fun x y => Binary64.eq x y = true) (xs.lookup name) (ys.lookup name) := by
  induction same with
  | nil => exact .none
  | @cons a b _ _ head _ ih =>
    obtain ⟨k, x⟩ := a
    obtain ⟨k', y⟩ := b
    obtain ⟨names, rates⟩ := head
    cases names
    rw [List.lookup_cons, List.lookup_cons]
    cases name == k with
    | true => exact .some rates
    | false => exact ih

private theorem names_same {xs ys : List (String × Binary64)}
    (same : List.Forall₂ (fun a b => a.1 = b.1 ∧ a.2.eq b.2 = true) xs ys) :
    xs.map Prod.fst = ys.map Prod.fst := by
  induction same with
  | nil => rfl
  | cons head _ ih => rw [List.map_cons, List.map_cons, head.1, ih]

private theorem Same.rateOf (same : p.Same q) (name : String) :
    (p.rateOf name).eq (q.rateOf name) = true := by
  have mentioned := lookup_same (List.forall₂_reverse_iff.mpr same.operations) name
  unfold OperationParameters.rateOf
  generalize p.operations.reverse.lookup name = mine at mentioned
  generalize q.operations.reverse.lookup name = yours at mentioned
  cases mentioned with
  | none => exact same.rate
  | some equal => exact equal

end OperationParameters

private theorem Guaranteed.update_of_follows {g : Guaranteed} {rate bound : Binary64}
    (follows : g.Follows rate bound) (now : Number) :
    g.update (.real rate) (.real bound) now = .ok (false, g) := by
  have rates : (Number.real rate).eq (.real g.rate.value) = true :=
    Binary64.eq_symm follows.rate
  have bounds : (Number.real bound).eq (.real g.floor.limit) = true :=
    Binary64.eq_symm follows.bound
  unfold update
  rw [rates, bounds]
  rfl

namespace OperationTable

section Entries

variable {named : List (String × Binary64)} {bound : Binary64}

theorem set_of_find? {name : String} {g : Guaranteed} {xs : List (String × Guaranteed)}
    (found : find? name xs = some g) : set name g xs = xs := by
  induction xs with
  | nil => rfl
  | cons x rest ih =>
    obtain ⟨k, own⟩ := x
    by_cases same : k = name
    · simp only [find?, same, if_true, Option.some.injEq] at found
      simp [set, same, found]
    · simp only [find?, same, if_false] at found
      simp [set, same, ih found]

private theorem moveUnnamed_of_follows (rate : Rate) (now : Number)
    (entries : List (String × Guaranteed))
    (follow : ∀ entry ∈ entries, named.lookup entry.1 = none →
      entry.2.Follows rate.value bound) :
    moveUnnamed named rate bound now entries = (.ok false, entries) := by
  induction entries with
  | nil => rfl
  | cons entry rest ih =>
    obtain ⟨k, g⟩ := entry
    have later := ih fun entry m => follow entry (List.mem_cons_of_mem _ m)
    rw [moveUnnamed, any_eq_isSome_lookup, later]
    split
    case isTrue => rfl
    case isFalse free =>
      have unnamed : named.lookup k = none := Option.not_isSome_iff_eq_none.mp free
      rw [Guaranteed.update_of_follows (follow (k, g) List.mem_cons_self unnamed)]
      rfl

private theorem moveNamed_of_follows (maxOperations : Number) (now : Number)
    (entries : List (String × Guaranteed)) (notices : List Notice)
    (settled : ∀ entry ∈ named,
      (∃ g, find? entry.1 entries = some g ∧ g.Follows entry.2 bound) ∨
        find? entry.1 entries = none ∧ hasRoom maxOperations entries = false) :
    ∃ notices', moveNamed maxOperations bound now named { old := entries, notices } =
      (none, { old := entries, notices := notices' }) := by
  induction named generalizing notices with
  | nil => exact ⟨notices, rfl⟩
  | cons entry rest ih =>
    obtain ⟨k, rate⟩ := entry
    have later := fun entry m => settled entry (List.mem_cons_of_mem _ m)
    rw [moveNamed]
    rcases settled (k, rate) List.mem_cons_self with ⟨g, found, follows⟩ | ⟨absent, full⟩
    · have kept : set k g entries = entries := set_of_find? found
      rw [found]
      dsimp only
      rw [Guaranteed.update_of_follows follows]
      dsimp only
      rw [kept]
      exact ih notices later
    · rw [absent, List.append_nil, full]
      exact ih _ later

end Entries

variable {t : OperationTable} {p q : OperationParameters}

theorem Conforms.of_same (conforms : t.Conforms p) (same : p.Same q) : t.Conforms q := by
  have follows := conforms.follows
  refine ⟨conforms.proper, conforms.limit.of_eq (Binary64.eq_symm same.bound), ?_, ?_⟩
  · refine ⟨Binary64.eq_trans follows.rate same.rate,
      Binary64.eq_trans follows.bound same.bound, ?_⟩
    intro name g found
    obtain ⟨rates, bounds⟩ := follows.entries name g found
    exact ⟨Binary64.eq_trans rates (same.rateOf name), Binary64.eq_trans bounds same.bound⟩
  · rw [← OperationParameters.names_same same.operations]
    exact conforms.covered

/-- Parameters in force are not applied anew: every entry keeps its credits, and an operation that
has found no room still finds none. -/
theorem update_of_conforms (conforms : t.Conforms p) (share : p.defaultRate.IsShare)
    (now : Number) : ∃ notices, t.update p now = ⟨.ok false, t, notices⟩ := by
  have follows := conforms.follows
  have distinct := conforms.proper.distinct
  have rates : p.defaultRate.eq t.defaultRate.value = true := Binary64.eq_symm follows.rate
  have bounds : p.defaultLowerBound.eq t.lowerBound = true := Binary64.eq_symm follows.bound
  have unnamed : moveUnnamed (explicitRates p.operations) ⟨p.defaultRate, share⟩
      p.defaultLowerBound now t.entries = (.ok false, t.entries) := by
    refine moveUnnamed_of_follows _ now _ fun entry m free => ?_
    have standard : p.rateOf entry.1 = p.defaultRate := by
      rw [OperationParameters.rateOf, ← lookup_explicitRates, free, Option.getD_none]
    have own := follows.entries entry.1 entry.2 (find?_of_mem distinct m)
    rw [standard] at own
    exact own
  obtain ⟨notices, named⟩ : ∃ notices, moveNamed t.maxOperations p.defaultLowerBound now
      (explicitRates p.operations) { old := t.entries } =
        (none, { old := t.entries, notices }) := by
    refine moveNamed_of_follows _ now _ [] fun entry m => ?_
    cases found : find? entry.1 t.entries with
    | some g =>
      have own := follows.entries entry.1 g found
      rw [rateOf_of_mem m] at own
      exact .inl ⟨g, rfl, own⟩
    | none =>
      have mentioned : entry.1 ∈ p.operations.map Prod.fst :=
        (names_explicitRates entry.1).mp (List.mem_map_of_mem m)
      have full := (conforms.covered entry.1 mentioned).resolve_left (find?_eq_none_iff.mp found)
      exact .inr ⟨rfl, full⟩
  refine ⟨notices, ?_⟩
  unfold update
  rw [Rate.create_of_isShare share]
  dsimp only
  rw [rates, bounds, unnamed]
  dsimp only
  rw [named]
  simp

end OperationTable

namespace Strategy

variable {s s' : Strategy}

def isUsable (s : Strategy) : Bool :=
  s.operations.isSome || s.probabilistic.isSome || s.rateLimiting.isSome

theorem Selects.isUniform {x : Sampler} (selects : s.Selects x) : s.IsUniform := by
  cases selects with
  | limited _ given => exact .inr (given ▸ Option.some_ne_none _)
  | shared _ given => exact .inl (given ▸ Option.some_ne_none _)
  | unshared _ given => exact .inr (given ▸ Option.some_ne_none _)

private theorem some_of_rel {α β : Type} {R : α → β → Prop} {a : Option α} {b : Option β} {x : α}
    (related : Option.Rel R a b) (given : a = some x) : ∃ y, b = some y ∧ R x y := by
  cases related with
  | none => cases given
  | some holds =>
    cases given
    exact ⟨_, rfl, holds⟩

private theorem none_of_rel {α β : Type} {R : α → β → Prop} {a : Option α} {b : Option β}
    (related : Option.Rel R a b) (given : a = none) : b = none := by
  cases related with
  | none => rfl
  | some holds => cases given

private theorem Same.isUniform (same : s.Same s') (uniform : s.IsUniform) : s'.IsUniform := by
  rcases uniform with rate | limit
  · obtain ⟨x, given⟩ := Option.ne_none_iff_exists'.mp rate
    obtain ⟨y, there, -⟩ := some_of_rel same.probabilistic given
    exact .inl (there ▸ Option.some_ne_none y)
  · obtain ⟨x, given⟩ := Option.ne_none_iff_exists'.mp limit
    obtain ⟨y, there, -⟩ := some_of_rel same.rateLimiting given
    exact .inr (there ▸ Option.some_ne_none y)

private theorem Selects.of_same (same : s.Same s') (sound : s'.IsSound) {x : Sampler}
    (selects : s.Selects x) : ∃ x', s'.Selects x' ∧ x'.hashKey? = x.hashKey? := by
  have relimited : ∀ t : Throughput, s.rateLimiting = some t.limit →
      ∃ t' : Throughput, s'.rateLimiting = some t'.limit ∧
        (Sampler.rateLimiting t').hashKey? = (Sampler.rateLimiting t).hashKey? := by
    intro t given
    obtain ⟨y, there, equal⟩ := some_of_rel same.rateLimiting given
    refine ⟨{ t with limit := y }, there, ?_⟩
    simp only [Sampler.hashKey?, Binary64.extended?_eq_of_eq equal]
  cases selects with
  | @limited t asked given =>
    obtain ⟨t', there, keyed⟩ := relimited t given
    exact ⟨_, .limited (same.kind ▸ asked) there, keyed⟩
  | @shared rate unasked given =>
    obtain ⟨y, there, equal⟩ := some_of_rel same.probabilistic given
    have share : y.IsShare := sound.rate y there
    refine ⟨.probabilistic ⟨y, share⟩, .shared (fun asked => ?_) there, ?_⟩
    · exact none_of_rel same.rateLimiting (unasked (same.kind.trans asked))
    · simp only [Sampler.hashKey?, Binary64.extended?_eq_of_eq equal]
  | @unshared t none given =>
    obtain ⟨t', there, keyed⟩ := relimited t given
    exact ⟨_, .unshared (none_of_rel same.probabilistic none) there, keyed⟩

/-- A document equal to one whose sampler is in force asks for a sampler equal to that. -/
theorem sampler?_of_same (same : s.Same s') (sound : s'.IsSound) (now : Number) {x d : Sampler}
    (selects : s.Selects x) (keyed : d.hashKey? = x.hashKey?) :
    ∃ y, s'.sampler? now = .ok (some y) ∧ (y == d) = true := by
  obtain ⟨x', selects', keyed'⟩ := selects.of_same same sound
  have uniform : s'.IsUniform := same.isUniform selects.isUniform
  obtain ⟨y, given, chosen⟩ := selects_of_sampler? sound uniform now
  exact ⟨y, given, selects'.beq sound (chosen.unique selects') (keyed.trans keyed'.symm)⟩

end Strategy

end Tracing
