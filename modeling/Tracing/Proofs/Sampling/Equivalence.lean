import Tracing.Proofs.Sampling.Change
import Tracing.Proofs.Sampling.Range
import Tracing.Proofs.Sampling.Refusal
/-!
Equality of samplers is equality of their terms: the numbers a sampler goes by, each by its place
on the extended line, those of a table by the name of the operation, and no credits. All laws of
equality come from there. Whether two samplers are equal is asked of the first and, where the
second is of another kind to it, of the second; both ways come to the same.
-/

set_option autoImplicit false
set_option relaxedAutoImplicit false

namespace Tracing

open OperationTable (find? mem_of_find? find?_of_mem find?_eq_none_iff mem_names_of_length)

private theorem Number.eq_of_extended? {m n : Number} (proper : n.extended? ≠ none)
    (h : m.extended? = n.extended?) : m.eq n = true := by
  obtain ⟨a, place⟩ := Option.ne_none_iff_exists'.mp proper
  unfold eq
  rw [h, place]
  exact beq_self_eq_true a

private theorem OperationTable.nodup_names_update {t : OperationTable} (distinct : t.names.Nodup)
    (p : OperationParameters) (now : Number) : (t.update p now).table.names.Nodup := by
  cases result : (t.update p now).result with
  | ok changed =>
    obtain ⟨fresh, updated⟩ := updated_of_update result
    exact updated.nodup_names distinct
  | error f => exact (midway_of_refused result).names ▸ distinct

def Guaranteed.places (g : Guaranteed) : Option Extended × Option Extended :=
  (g.rate.value.extended?, g.floor.limit.extended?)

namespace Sampler

/-- What a sampler goes by. -/
inductive Terms where
  | const (decision : Bool)
  | probabilistic (rate : Option Extended)
  | rateLimiting (limit : Option Extended)
  | guaranteed (places : Option Extended × Option Extended)
  | perOperation (capacity rate bound : Option Extended)
      (entries : String → Option (Option Extended × Option Extended))
  | remote (delegate : Terms)

def terms : Sampler → Terms
  | const decision => .const decision
  | probabilistic rate => .probabilistic rate.value.extended?
  | rateLimiting t => .rateLimiting t.limit.extended?
  | guaranteed g => .guaranteed g.places
  | perOperation t =>
    .perOperation t.maxOperations.extended? t.defaultRate.value.extended? t.lowerBound.extended?
      fun name => (find? name t.entries).map Guaranteed.places
  | remote _ _ delegate => .remote delegate.terms

def keyedTables : Parts := ⟨fun _ => True, fun t => t.names.Nodup⟩

/-- Whether the table within, if there is one, holds each operation once. -/
def IsKeyed (s : Sampler) : Prop := s.Within keyedTables

private theorem isLasting_keyedTables (given : Number → Prop) : keyedTables.IsLasting given where
  handed _ _ := trivial
  limited _ _ := trivial
  asked _ _ := trivial
  made {n p now t} _ created := by
    obtain ⟨-, rate, changed, -, rfl⟩ := OperationTable.update_of_create created
    have empty : (OperationTable.names ⟨n, rate, p.defaultLowerBound, []⟩).Nodup := List.nodup_nil
    exact OperationTable.nodup_names_update empty p now
  sampled := OperationTable.nodup_names_of_sample
  enrolled := OperationTable.nodup_names_enroll
  updated distinct _ now := OperationTable.nodup_names_update distinct _ now

theorem isKeyed_of_reached {given : Number → Prop} {s : Sampler} (reached : s.Reached given) :
    s.IsKeyed :=
  within_of_reached (isLasting_keyedTables given) reached

/-- Whether all limits, bounds and capacities are numbers. Shares are by their type. -/
def IsNumeric : Sampler → Prop
  | const _ | probabilistic _ => True
  | rateLimiting t => t.limit.extended? ≠ none
  | guaranteed g => g.floor.limit.extended? ≠ none
  | perOperation t => t.maxOperations.extended? ≠ none ∧ t.lowerBound.extended? ≠ none ∧
      ∀ entry ∈ t.entries, entry.2.floor.limit.extended? ≠ none
  | remote _ _ delegate => delegate.IsNumeric

section Tables

variable {t u : OperationTable} {g g' : Guaranteed}

private theorem extended?_rate (rate : Rate) : rate.value.extended? ≠ none := by
  have share : rate.value.IsShare := rate.inRange
  obtain ⟨a, place, -⟩ := Binary64.isLimit_iff.mp share.isLimit
  rw [place]
  exact Option.some_ne_none a

private theorem eq_iff_extended? {x y : Binary64} (proper : y.extended? ≠ none) :
    x.eq y = true ↔ x.extended? = y.extended? :=
  ⟨Binary64.extended?_eq_of_eq, Binary64.eq_of_extended? proper⟩

private theorem eq_iff_places (proper : g'.floor.limit.extended? ≠ none) :
    (g.rate.value.eq g'.rate.value && g.floor.limit.eq g'.floor.limit) = true ↔
      g.places = g'.places := by
  rw [Bool.and_eq_true_iff, eq_iff_extended? (extended?_rate g'.rate), eq_iff_extended? proper,
    Guaranteed.places, Guaranteed.places, Prod.mk.injEq]

private theorem beq_perOperation (t u : OperationTable) :
    (perOperation t).beq (perOperation u) =
      (t.maxOperations.eq u.maxOperations && t.defaultRate.value.eq u.defaultRate.value &&
        t.lowerBound.eq u.lowerBound && t.entries.length == u.entries.length &&
        t.entries.all fun entry => (find? entry.1 u.entries).any fun g' =>
          entry.2.rate.value.eq g'.rate.value && entry.2.floor.limit.eq g'.floor.limit) := by
  rw [beq]
  congr 2
  funext entry
  dsimp only
  cases find? entry.1 u.entries <;> rfl

/-- Two lists of distinct names that go by the same numbers under every name go by them entry by
entry, and the other way round where they are of one length. -/
private theorem entries_iff (keyed : t.names.Nodup) (keyed' : u.names.Nodup)
    (numeric : ∀ entry ∈ u.entries, entry.2.floor.limit.extended? ≠ none) :
    (t.entries.length = u.entries.length ∧ ∀ entry ∈ t.entries,
        ((find? entry.1 u.entries).any fun g' =>
          entry.2.rate.value.eq g'.rate.value && entry.2.floor.limit.eq g'.floor.limit) = true) ↔
      ∀ name, (find? name t.entries).map Guaranteed.places =
        (find? name u.entries).map Guaranteed.places := by
  constructor
  · rintro ⟨size, agree⟩ name
    have among : ∀ entry ∈ t.entries, ∃ g', find? entry.1 u.entries = some g' := by
      intro entry m
      obtain ⟨g', found, -⟩ := (Option.any_eq_true _ _).mp (agree entry m)
      exact ⟨g', found⟩
    cases found : find? name t.entries with
    | none =>
      have missing : name ∉ u.names := by
        rw [OperationTable.names, ← mem_names_of_length keyed among size]
        exact find?_eq_none_iff.mp found
      rw [find?_eq_none_iff.mpr missing]
    | some g =>
      have m := mem_of_find? found
      obtain ⟨g', there, equal⟩ := (Option.any_eq_true _ _).mp (agree (name, g) m)
      dsimp only at there
      rw [there]
      have same := (eq_iff_places (numeric _ (mem_of_find? there))).mp equal
      exact congrArg some same
  · intro agree
    have there : ∀ name, name ∈ t.names ↔ name ∈ u.names := by
      intro name
      rw [← not_iff_not, OperationTable.names, OperationTable.names, ← find?_eq_none_iff,
        ← find?_eq_none_iff, ← Option.map_eq_none_iff (f := Guaranteed.places), agree,
        Option.map_eq_none_iff]
    refine ⟨?_, fun entry m => ?_⟩
    · have perm : t.names.Perm u.names := (List.perm_ext_iff_of_nodup keyed keyed').mpr there
      have size := perm.length_eq
      rwa [OperationTable.names, OperationTable.names, List.length_map, List.length_map] at size
    · have own := agree entry.1
      rw [find?_of_mem keyed m] at own
      obtain ⟨g', found, same⟩ := Option.map_eq_some_iff.mp own.symm
      have equal := (eq_iff_places (numeric _ (mem_of_find? found))).mpr same.symm
      exact (Option.any_eq_true _ _).mpr ⟨g', found, equal⟩

/-- Tables are equal if and only if their capacities and defaults are, and they go by the same
numbers under every name. -/
private theorem beq_perOperation_iff (keyed : t.names.Nodup) (keyed' : u.names.Nodup)
    (numeric : ∀ entry ∈ u.entries, entry.2.floor.limit.extended? ≠ none) :
    (perOperation t == perOperation u) = true ↔
      t.maxOperations.eq u.maxOperations = true ∧
        t.defaultRate.value.eq u.defaultRate.value = true ∧ t.lowerBound.eq u.lowerBound = true ∧
        ∀ name, (find? name t.entries).map Guaranteed.places =
          (find? name u.entries).map Guaranteed.places := by
  show (perOperation t).beq (perOperation u) = true ↔ _
  simp only [beq_perOperation, Bool.and_eq_true, beq_iff_eq, List.all_eq_true, and_assoc]
  rw [entries_iff keyed keyed' numeric]

end Tables

/-- Samplers are equal if and only if they go by the same terms. -/
theorem beq_iff_terms {a b : Sampler} (keyed : a.IsKeyed) (keyed' : b.IsKeyed)
    (numeric : b.IsNumeric) : (a == b) = true ↔ a.terms = b.terms := by
  show a.beq b = true ↔ _
  induction a generalizing b with
  | const decision =>
    cases b <;> simp [beq, terms]
  | probabilistic rate =>
    cases b with
    | probabilistic rate' => simp [beq, terms, eq_iff_extended? (extended?_rate rate')]
    | _ => simp [beq, terms]
  | rateLimiting t =>
    cases b with
    | rateLimiting u =>
      have proper : u.limit.extended? ≠ none := numeric
      simp [beq, terms, eq_iff_extended? proper]
    | _ => simp [beq, terms]
  | guaranteed g =>
    cases b with
    | guaranteed g' =>
      have proper : g'.floor.limit.extended? ≠ none := numeric
      rw [beq, eq_iff_places proper]
      simp [terms]
    | _ => simp [beq, terms]
  | perOperation t =>
    cases b with
    | perOperation u =>
      obtain ⟨capacity, bound, limits⟩ := numeric
      have capacities : t.maxOperations.eq u.maxOperations = true ↔
          t.maxOperations.extended? = u.maxOperations.extended? :=
        ⟨Number.extended?_eq_of_eq, Number.eq_of_extended? capacity⟩
      refine (beq_perOperation_iff keyed keyed' limits).trans ?_
      rw [capacities, eq_iff_extended? (extended?_rate u.defaultRate), eq_iff_extended? bound]
      simp only [terms, Terms.perOperation.injEq, funext_iff]
    | _ => simp [beq, terms]
  | remote control watch delegate ih =>
    cases b with
    | remote control' watch' delegate' =>
      have inner := @ih delegate' keyed keyed' numeric
      rw [beq, terms, terms, Terms.remote.injEq]
      exact inner
    | _ => simp [beq, terms]

section Asking

private theorem kind_eq_of_beq {a b : Sampler} (h : (a == b) = true) : a.kind = b.kind := by
  cases a with
  | _ => cases b with
    | _ => first | rfl | cases h

private theorem beq_of_kind_ne {a b : Sampler} (other : a.kind ≠ b.kind) : (a == b) = false :=
  Bool.eq_false_iff.mpr fun same => other (kind_eq_of_beq same)

private theorem or_of_kinds (a b : Sampler) :
    ((if a.kind = b.kind then some (a == b) else none).or
      (if b.kind = a.kind then some (b == a) else none)).getD false = (a == b) := by
  by_cases same : a.kind = b.kind
  · rw [if_pos same]
    rfl
  · rw [if_neg same, if_neg (Ne.symm same), beq_of_kind_ne same]
    rfl

private theorem opinion?_eq (a b : Sampler) :
    opinion? a b = if a.kind = b.kind then some (a == b) else none := by
  induction a, b using opinion?.induct with
  | case1 control watch a control' watch' b ih ih' =>
    rw [opinion?, ih, ih', or_of_kinds]
    rfl
  | case2 a b other _ | case3 a b other _ =>
    rw [opinion?]
    · rfl
    · exact other

private theorem agrees_eq_beq (a b : Sampler) : agrees a b = (a == b) := by
  rw [agrees, opinion?_eq, opinion?_eq, or_of_kinds]

private theorem differs_eq_not_agrees (a b : Sampler) : differs a b = !agrees a b := by
  unfold differs agrees
  rw [← Option.map_or]
  cases (opinion? a b).or (opinion? b a) <;> rfl

end Asking

/-- A sampler whose table, if it has one, is keyed, and whose numbers are numbers. -/
structure IsValue (s : Sampler) : Prop where
  keyed : s.IsKeyed
  numeric : s.IsNumeric

/-- Samplers are equal as values are: both ways of asking have the answer in common, every sampler
equals itself, equality goes both ways and onwards, holds between samplers of one kind alone, is
equality of the delegates between remote samplers and of capacity, defaults and the numbers under
every name between tables, and equal samplers are filed under equal keys. -/
theorem beq_laws {a b c : Sampler} (first : a.IsValue) (second : b.IsValue) (third : c.IsValue) :
    agrees a b = (a == b) ∧ differs a b = !(a == b) ∧
      (a == a) = true ∧ (a == b) = (b == a) ∧
      ((a == b) = true → (b == c) = true → (a == c) = true) ∧
      (a.kind ≠ b.kind → (a == b) = false) ∧
      (∀ control watch control' watch',
        (remote control watch a == remote control' watch' b) = (a == b)) ∧
      (∀ t u, a = perOperation t → b = perOperation u →
        ((a == b) = true ↔ t.maxOperations.eq u.maxOperations = true ∧
          t.defaultRate.value.eq u.defaultRate.value = true ∧
          t.lowerBound.eq u.lowerBound = true ∧
          ∀ name, (find? name t.entries).map Guaranteed.places =
            (find? name u.entries).map Guaranteed.places)) ∧
      ((a == b) = true → a.hashKey? = b.hashKey?) := by
  have forth := beq_iff_terms first.keyed second.keyed second.numeric
  have back := beq_iff_terms second.keyed first.keyed first.numeric
  refine ⟨agrees_eq_beq a b, ?_, ?_, ?_, fun same same' => ?_, beq_of_kind_ne,
    fun _ _ _ _ => rfl, ?_, hashKey?_eq_of_beq⟩
  · rw [differs_eq_not_agrees, agrees_eq_beq]
  · exact (beq_iff_terms first.keyed first.keyed first.numeric).mpr rfl
  · exact Bool.eq_iff_iff.mpr (forth.trans (eq_comm.trans back.symm))
  · have onwards := (beq_iff_terms second.keyed third.keyed third.numeric).mp same'
    exact (beq_iff_terms first.keyed third.keyed third.numeric).mpr ((forth.mp same).trans onwards)
  · rintro t u rfl rfl
    obtain ⟨-, -, limits⟩ := second.numeric
    exact beq_perOperation_iff first.keyed second.keyed limits

/-- A table in which the floor under one operation is untouched. -/
def homeFirst : OperationTable where
  maxOperations := .integer 2
  defaultRate := .standard
  lowerBound := .one
  entries := [("home", ⟨.standard, .one, .full .one .one (.integer 0)⟩),
    ("cart", ⟨⟨.one, by decide⟩, .one, .full .one .one (.integer 0)⟩)]

/-- The same with the operations in the other order, and credits spent. -/
def cartFirst : OperationTable where
  maxOperations := .real (.ofInt 2)
  defaultRate := .standard
  lowerBound := .one
  entries := [("cart", ⟨⟨.one, by decide⟩, .one, .full .one .one (.integer 0)⟩),
    ("home", ⟨.standard, .one, { TokenBucket.full .one .one (.integer 5) with
      balance := .zero true }⟩)]

def inForceFor (service : String) (t : OperationTable) : Sampler :=
  remote { (RemoteSampler.aboutToHalve (.const true)).control with service := .text service } {}
    (.perOperation t)

theorem homeFirst_equals_cartFirst :
    (inForceFor "shop" homeFirst).IsValue ∧ (inForceFor "checkout" cartFirst).IsValue ∧
      (inForceFor "shop" homeFirst == inForceFor "checkout" cartFirst) = true ∧
      (inForceFor "checkout" cartFirst == inForceFor "shop" homeFirst) = true ∧
      differs (inForceFor "shop" homeFirst) (inForceFor "checkout" cartFirst) = false ∧
      (perOperation homeFirst == inForceFor "checkout" cartFirst) = false := by
  have one : Binary64.extended? .one ≠ none := by
    rw [Binary64.extended?_one]
    exact Option.some_ne_none _
  have home : (perOperation homeFirst).IsValue := by
    have distinct : homeFirst.names.Nodup := by decide
    refine ⟨distinct, Option.some_ne_none _, one, ?_⟩
    simpa [homeFirst] using one
  have cart : (perOperation cartFirst).IsValue := by
    have distinct : cartFirst.names.Nodup := by decide
    refine ⟨distinct, Option.some_ne_none _, one, ?_⟩
    simpa [cartFirst] using one
  have shop : (inForceFor "shop" homeFirst).IsValue := ⟨home.keyed, home.numeric⟩
  have checkout : (inForceFor "checkout" cartFirst).IsValue := ⟨cart.keyed, cart.numeric⟩
  have tables : (perOperation homeFirst == perOperation cartFirst) = true := by decide +kernel
  obtain ⟨-, -, -, -, -, -, delegates, -⟩ := beq_laws home cart cart
  have equal : (inForceFor "shop" homeFirst == inForceFor "checkout" cartFirst) = true :=
    (delegates _ _ _ _).trans tables
  obtain ⟨-, contrary, -, symmetric, -⟩ := beq_laws shop checkout checkout
  obtain ⟨-, -, -, -, -, kinds, -⟩ := beq_laws home checkout checkout
  refine ⟨shop, checkout, equal, symmetric.symm.trans equal, ?_, kinds (by decide)⟩
  rw [contrary, equal]
  rfl

end Sampler

end Tracing
