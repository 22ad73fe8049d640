import Tracing.Proofs.Sampling.OperationUpdate
import Tracing.Sampling.Remote
/-!
What a poll makes of a remote sampler is decided by the strategy it retrieves. Whatever delegate the
polls before it have left, an open sampler follows the strategy after the poll, so that samplers of
any past that retrieve one strategy for all operations end with equal delegates.
-/

set_option autoImplicit false
set_option relaxedAutoImplicit false

namespace Tracing

open OperationTable (find?)

namespace Strategy

/-- Whether a strategy says something for all operations alike. -/
def IsUniform (s : Strategy) : Prop := s.probabilistic ≠ none ∨ s.rateLimiting ≠ none

/-- The samplers that a strategy asks for: at a limit where it asks for limiting and has a limit,
else at a share where it has one, else at a limit. -/
inductive Selects (s : Strategy) : Sampler → Prop
  | limited {t : Throughput} : s.kind = some .rateLimiting → s.rateLimiting = some t.limit →
      s.Selects (.rateLimiting t)
  | shared {rate : Rate} : (s.kind = some .rateLimiting → s.rateLimiting = none) →
      s.probabilistic = some rate.value → s.Selects (.probabilistic rate)
  | unshared {t : Throughput} : s.probabilistic = none → s.rateLimiting = some t.limit →
      s.Selects (.rateLimiting t)

variable {s : Strategy}

/-- A selected sampler is filed under its kind and its one number, which decide it. -/
theorem Selects.hashKey? (sound : s.IsSound) {x : Sampler} (h : s.Selects x) :
    ∃ kind number, x.hashKey? = some (kind, [some number]) := by
  have limited : ∀ t : Throughput, s.rateLimiting = some t.limit →
      ∃ number, t.limit.extended? = some number := by
    intro t given
    obtain ⟨number, place, -⟩ := Binary64.isLimit_iff.mp (sound.limit t.limit given)
    exact ⟨number, place⟩
  cases h with
  | @limited t _ given | @unshared t _ given =>
    obtain ⟨number, place⟩ := limited t given
    exact ⟨.rateLimiting, number, by simp [Sampler.hashKey?, place]⟩
  | @shared rate _ given =>
    have limit : rate.value.IsLimit := Binary64.IsShare.isLimit rate.inRange
    obtain ⟨number, place, -⟩ := Binary64.isLimit_iff.mp limit
    exact ⟨.probabilistic, number, by simp [Sampler.hashKey?, place]⟩

/-- All samplers that a strategy selects are filed under one key. -/
theorem Selects.unique {x y : Sampler} (h : s.Selects x) (h' : s.Selects y) :
    x.hashKey? = y.hashKey? := by
  have limits : ∀ {t t' : Throughput}, s.rateLimiting = some t.limit →
      s.rateLimiting = some t'.limit →
      (Sampler.rateLimiting t).hashKey? = (Sampler.rateLimiting t').hashKey? := by
    intro t t' given given'
    have same : t.limit = t'.limit := Option.some.inj (given.symm.trans given')
    simp only [Sampler.hashKey?, same]
  cases h with
  | limited asked given =>
    cases h' with
    | limited _ given' | unshared _ given' => exact limits given given'
    | shared unasked _ =>
      rw [unasked asked] at given
      cases given
  | shared unasked given =>
    cases h' with
    | limited asked given' =>
      rw [unasked asked] at given'
      cases given'
    | shared _ given' =>
      have same := Option.some.inj (given.symm.trans given')
      simp only [Sampler.hashKey?, same]
    | unshared none' _ =>
      rw [none'] at given
      cases given
  | unshared none given =>
    cases h' with
    | limited _ given' | unshared _ given' => exact limits given given'
    | shared _ given' =>
      rw [none] at given'
      cases given'

theorem Selects.beq (sound : s.IsSound) {x a b : Sampler} (h : s.Selects x)
    (left : a.hashKey? = x.hashKey?) (right : b.hashKey? = x.hashKey?) : (a == b) = true := by
  obtain ⟨kind, number, key⟩ := h.hashKey? sound
  exact Sampler.beq_of_hashKey? (right.trans key) (by simp) (left.trans right.symm)

/-- A sound strategy for all operations alike gives a sampler it selects. -/
theorem selects_of_sampler? (sound : s.IsSound) (uniform : s.IsUniform) (now : Number) :
    ∃ x, s.sampler? now = .ok (some x) ∧ s.Selects x := by
  have limited : ∀ limit, s.rateLimiting = some limit →
      ∃ t, (Throughput.create (.real limit) now).map (fun t => some (Sampler.rateLimiting t)) =
        .ok (some (.rateLimiting t)) ∧ t.limit = limit := by
    intro limit given
    obtain ⟨t, made, same⟩ := Throughput.create_of_isLimit (sound.limit limit given) now
    exact ⟨t, by rw [made]; rfl, same⟩
  unfold sampler?
  dsimp only
  split
  case h_1 limit asked given =>
    obtain ⟨t, made, rfl⟩ := limited limit given
    exact ⟨_, made, .limited asked given⟩
  case h_2 rate given unasked =>
    rw [Rate.create_of_isShare (sound.rate rate given)]
    refine ⟨_, rfl, .shared (fun asked => ?_) given⟩
    cases limit : s.rateLimiting with
    | none => rfl
    | some x => exact absurd limit (unasked x asked)
  case h_3 limit none given unasked =>
    obtain ⟨t, made, rfl⟩ := limited limit given
    exact ⟨_, made, .unshared none given⟩
  case h_4 noRate noLimit =>
    rcases uniform with rate | limit
    · exact absurd noRate rate
    · exact absurd noLimit limit

theorem sampler?_of_not_isUniform (h : ¬ s.IsUniform) (now : Number) :
    s.sampler? now = .ok none := by
  have noRate : s.probabilistic = none := by
    by_contra given
    exact h (.inl given)
  have noLimit : s.rateLimiting = none := by
    by_contra given
    exact h (.inr given)
  unfold sampler?
  rw [noRate, noLimit]
  cases s.kind with
  | none => rfl
  | some kind => cases kind <;> rfl

end Strategy

namespace RemoteSampler

/-- Whether a poll retrieves a strategy, and finds the sampler open then. -/
def Retrieves (own : Watch) (r : RemoteSampler) (h : Host) (s : Strategy) : Prop :=
  (r.fetch own h).1 = some s ∧ (r.fetch own h).2.1.control.closed = false

/-- Whether a table of the sampler has room for one operation at least. -/
def HasRoom (r : RemoteSampler) : Prop :=
  ∃ n, r.control.maxOperations.number = .ok n ∧ (Number.integer 1).le n = true

/-- What a poll that retrieves a strategy makes of a sampler. Rates by operation are in force in a
table, that of the sampler before if it had one. Else a delegate that the strategy selects is in
force, and a strategy that selects none leaves the delegate as it is. -/
structure Settled (s : Strategy) (before after : RemoteSampler) : Prop where
  byOperation : ∀ p, s.operations = some p →
    ∃ t, after.delegate = .perOperation t ∧ t.Follows p ∧
      ∀ earlier, before.delegate = .perOperation earlier →
        after.control.generation = before.control.generation ∧
        ∀ name, (find? name earlier.entries).isSome = true → (find? name t.entries).isSome = true
  uniform : s.operations = none → s.IsUniform →
    (∃ x, s.Selects x) ∧ ∀ x, s.Selects x → (after.delegate == x) = true
  untouched : s.operations = none → ¬ s.IsUniform →
    after.delegate = before.delegate ∧ after.control.generation = before.control.generation

variable {own : Watch} {r : RemoteSampler} {h : Host} {s : Strategy}

theorem closed_of_close (quiet : (r.close own h).1 = none) :
    (r.close own h).2.1.control.closed = true := by
  unfold close toSampler Sampler.close at quiet ⊢
  cases fault : own.fault? with
  | some f =>
    simp only [fault] at quiet
    cases quiet
  | none =>
    cases closed : r.control.closed with
    | true => simp [closed, ofSampler?]
    | false =>
      simp only [fault, closed, Bool.false_eq_true, if_false] at quiet ⊢
      split
      · simp_all
      · rfl

/-- A source that replies to an open sampler with a strategy has changed alone, and the strategy is
sound: had it closed the sampler, the sampler would be closed or the reply lost. -/
theorem ask_of_open (given : (r.ask own h).1 = .ok s)
    (opened : (r.ask own h).2.1.control.closed = false) :
    s.IsSound ∧ ∃ source h', r.ask own h =
      (.ok s, { r with control := { r.control with source } }, h') := by
  unfold ask at given opened ⊢
  dsimp only at given opened ⊢
  split at given
  case isTrue closes =>
    simp only [closes, if_true] at opened
    split at given
    · cases given
    case h_2 quiet =>
      rw [quiet] at opened
      have closed := closed_of_close (congrArg Prod.fst quiet)
      rw [quiet, opened] at closed
      cases closed
  case isFalse stays =>
    have reply : (r.control.source.fetch r.control.service h.network).1 = .ok s := given
    rw [if_neg stays, reply]
    exact ⟨StrategySource.isSound_of_fetch reply, _, _, rfl⟩

private theorem heed_eq_some {reply : Except Fault Strategy} (heard : (r.heed reply h).1 = some s) :
    reply = .ok s := by
  cases reply with
  | error => cases heard
  | ok strategy =>
    cases heard
    rfl

private theorem Retrieves.fetched (retrieved : r.Retrieves own h s) :
    s.IsSound ∧ ∃ source h', r.fetch own h =
      (some s, { r with control := { r.control with source } }, h') := by
  obtain ⟨heard, opened⟩ := retrieved
  obtain ⟨sound, source, h', asked⟩ := ask_of_open (heed_eq_some heard) opened
  refine ⟨sound, source, h'.count r.control.metered .samplerRetrieved 1, ?_⟩
  unfold fetch
  rw [asked]
  rfl

private theorem delegate_replace (opened : r.control.closed = false) (watch : Watch) (x : Sampler) :
    (r.replace watch x h).2.1.delegate = x := by
  unfold replace
  rw [opened]
  rfl

private theorem applyOperations_of_table {p : OperationParameters} (sound : p.IsSound)
    {earlier : OperationTable} (before : r.delegate = .perOperation earlier) :
    ∃ t, (r.applyOperations p h).2.1 = { r with delegate := .perOperation t } ∧ t.Follows p ∧
      ∀ name, (find? name earlier.entries).isSome = true →
        (find? name t.entries).isSome = true := by
  obtain ⟨changed, t, notices, updated, follows, kept⟩ :=
    OperationTable.follows_of_update earlier sound h.now
  refine ⟨t, ?_, follows, kept⟩
  unfold applyOperations
  rw [before]
  dsimp only
  rw [updated]
  cases changed <;> rfl

private theorem applyOperations_of_other {p : OperationParameters} (sound : p.IsSound)
    (room : r.HasRoom)
    (opened : r.control.closed = false) (other : ∀ t, r.delegate ≠ .perOperation t) :
    ∃ t, (r.applyOperations p h).2.1.delegate = .perOperation t ∧ t.Follows p := by
  obtain ⟨n, number, enough⟩ := room
  obtain ⟨t, notices, created, follows⟩ := OperationTable.follows_of_create sound enough h.now
  refine ⟨t, ?_, follows⟩
  unfold applyOperations
  split
  case h_1 table before => exact absurd before (other table)
  case h_2 =>
    rw [number]
    dsimp only
    rw [created]
    exact delegate_replace opened _ _

/-- A sound strategy for all operations alike brings a delegate it selects, or finds one equal to
such. -/
private theorem applyUniform_of_isUniform (opened : r.control.closed = false) (sound : s.IsSound)
    (uniform : s.IsUniform) :
    ∃ x, s.Selects x ∧ (r.applyUniform s h).2.1.delegate.hashKey? = x.hashKey? := by
  obtain ⟨x, selected, selects⟩ := Strategy.selects_of_sampler? sound uniform h.now
  refine ⟨x, selects, ?_⟩
  unfold applyUniform
  rw [selected]
  dsimp only
  split
  case isTrue same => exact (Sampler.hashKey?_eq_of_beq same).symm
  case isFalse => rw [delegate_replace opened]

private theorem applyUniform_of_not_isUniform (barren : ¬ s.IsUniform) :
    (r.applyUniform s h).2.1 = r := by
  unfold applyUniform
  rw [Strategy.sampler?_of_not_isUniform barren]

private theorem settled_apply (sound : s.IsSound) (room : r.HasRoom)
    (opened : r.control.closed = false) :
    Settled s r (r.apply s h).2.1 := by
  unfold apply
  constructor
  · intro p given
    rw [given]
    dsimp only
    have fine : p.IsSound := sound.operations p given
    by_cases table : ∃ earlier, r.delegate = .perOperation earlier
    · obtain ⟨earlier, before⟩ := table
      obtain ⟨t, applied, follows, kept⟩ := applyOperations_of_table (h := h) fine before
      rw [applied]
      refine ⟨t, rfl, follows, fun same before' => ⟨rfl, ?_⟩⟩
      cases before.symm.trans before'
      exact kept
    · have other : ∀ t, r.delegate ≠ .perOperation t := fun t before => table ⟨t, before⟩
      obtain ⟨t, applied, follows⟩ := applyOperations_of_other (h := h) fine room opened other
      exact ⟨t, applied, follows, fun same before => absurd before (other same)⟩
  · intro absent uniform
    rw [absent]
    dsimp only
    obtain ⟨x, selects, keyed⟩ := applyUniform_of_isUniform (h := h) opened sound uniform
    refine ⟨⟨x, selects⟩, fun y chosen => ?_⟩
    exact chosen.beq sound (keyed.trans (selects.unique chosen)) rfl
  · intro absent barren
    rw [absent]
    dsimp only
    rw [applyUniform_of_not_isUniform barren]
    exact ⟨rfl, rfl⟩

private theorem Retrieves.applied (retrieved : r.Retrieves own h s) :
    s.IsSound ∧ ∃ source h', r.control.closed = false ∧
      (r.update own h).2.1 = ({ r with control := { r.control with source } }.apply s h').2.1 := by
  obtain ⟨sound, source, h', fetched⟩ := retrieved.fetched
  have opened : r.control.closed = false := by
    have still := retrieved.2
    rw [fetched] at still
    exact still
  refine ⟨sound, source, h', opened, ?_⟩
  unfold update
  rw [fetched]
  dsimp only
  rw [opened]
  rfl

/-- A poll that retrieves a strategy for all operations alike leaves a delegate under the key of a
sampler that the strategy selects. -/
private theorem Retrieves.keyed (retrieved : r.Retrieves own h s) (absent : s.operations = none)
    (uniform : s.IsUniform) :
    ∃ x, s.Selects x ∧ (r.update own h).2.1.delegate.hashKey? = x.hashKey? := by
  obtain ⟨sound, source, h', opened, applied⟩ := retrieved.applied
  rw [applied]
  unfold apply
  rw [absent]
  exact applyUniform_of_isUniform opened sound uniform

/-- After a poll that retrieves a strategy, what is in force is what the strategy asks for, whatever
the polls before it have left. Two samplers that retrieve one strategy for all operations alike end
with equal delegates. -/
theorem settled_update (own : Watch) (r : RemoteSampler) (h : Host) (s : Strategy)
    (retrieved : r.Retrieves own h s) (room : r.HasRoom) :
    Settled s r (r.update own h).2.1 ∧
      ∀ (own' : Watch) (r' : RemoteSampler) (h' : Host), r'.Retrieves own' h' s →
        s.operations = none → s.IsUniform →
        ((r.update own h).2.1.delegate == (r'.update own' h').2.1.delegate) = true := by
  obtain ⟨sound, source, later, opened, applied⟩ := retrieved.applied
  constructor
  · rw [applied]
    have settled := settled_apply (r := { r with control := { r.control with source } })
      (h := later) sound room opened
    exact ⟨settled.byOperation, settled.uniform, settled.untouched⟩
  · intro own' r' h' retrieved' absent uniform
    obtain ⟨x, selects, keyed⟩ := retrieved.keyed absent uniform
    obtain ⟨y, selects', keyed'⟩ := retrieved'.keyed absent uniform
    exact selects.beq sound keyed (keyed'.trans (selects'.unique selects))

def halfOfAll : Strategy where
  probabilistic := some (.finite false 4503599627370496 (-53) (by decide))

def standardTable : OperationTable := ⟨.integer 10, .standard, .one, []⟩

/-- A sampler of some past, whose source is about to ask for every second trace. -/
def aboutToHalve (delegate : Sampler) : RemoteSampler where
  control :=
    { service := .text "checkout"
      source := .scripted
        [{ reply := .document
            (.text "\x7b\"probabilisticSampling\": \x7b\"samplingRate\": 0.5\x7d\x7d") }] [] 0
      ownsSource := false
      maxOperations := .integer 10
      pollingInterval := .integer 60
      metered := true }
  delegate := delegate

theorem const_and_table_halved :
    Settled halfOfAll (aboutToHalve (.const true)) ((aboutToHalve (.const true)).update {} {}).2.1 ∧
      (((aboutToHalve (.const true)).update {} {}).2.1.delegate ==
        ((aboutToHalve (.perOperation standardTable)).update {} {}).2.1.delegate) = true := by
  have retrieved : ∀ delegate, (aboutToHalve delegate).Retrieves {} {} halfOfAll :=
    fun delegate => ⟨rfl, rfl⟩
  have room : (aboutToHalve (.const true)).HasRoom := ⟨.integer 10, rfl, by decide⟩
  obtain ⟨settled, alike⟩ := settled_update {} _ {} halfOfAll (retrieved (.const true)) room
  exact ⟨settled, alike {} _ {} (retrieved _) rfl (.inl (Option.some_ne_none _))⟩

end RemoteSampler

end Tracing
