import Tracing.Proofs.Pipeline.Instruments
import Tracing.Proofs.Sampling.Change
import Tracing.Proofs.Sampling.Turns
/-!
Every poll comes to one of five ends: no strategy comes, one comes too late, one says nothing, one
is in force already, or one is applied. The counters of a remote sampler tell them apart.
-/

set_option autoImplicit false
set_option relaxedAutoImplicit false

namespace Tracing

open Metrics (Instrument)

namespace Host

/-- Some counters have grown by one, where there are counters, and no others have moved. -/
def Counts (h : Host) (metered : Bool) (counted : List Instrument) (h' : Host) : Prop :=
  ∀ i, h'.tally.get i = h.tally.get i + if metered = true ∧ i ∈ counted then 1 else 0

variable {h h' : Host} {metered : Bool} {counted : List Instrument}

private theorem counts_of_tally (same : h'.tally = h.tally) : h.Counts metered [] h' := by
  intro i
  rw [same]
  simp

private theorem Counts.of_tally (counts : h.Counts metered counted h') {h'' : Host}
    (same : h''.tally = h'.tally) : h.Counts metered counted h'' := by
  intro i
  rw [same]
  exact counts i

private theorem counts_count (h : Host) (metered : Bool) (i : Instrument) :
    h.Counts metered [i] (h.count metered i 1) := by
  intro j
  rw [get_count]
  simp [eq_comm]

private theorem Counts.trans {h'' : Host} {counted' : List Instrument}
    (counts : h.Counts metered counted h') (counts' : h'.Counts metered counted' h'')
    (apart : ∀ i ∈ counted, i ∉ counted') : h.Counts metered (counted ++ counted') h'' := by
  intro i
  rw [counts' i, counts i]
  simp only [List.mem_append]
  by_cases first : i ∈ counted
  · simp [first, apart i first]
  · simp [first]

end Host

theorem Sampler.fault_close (s : Sampler) (watch : Watch) (h h' : Host) :
    (s.close watch h).1 = (s.close watch h').1 := by
  induction s generalizing watch h h' with
  | remote control delegateWatch delegate ih =>
    have inner := ih delegateWatch (watch.record h) (watch.record h')
    rw [close, close]
    dsimp only
    cases watch.fault? with
    | some f => rfl
    | none =>
      dsimp only
      split
      · rfl
      · rw [← inner]
        split <;> rfl
  | _ => rfl

/-- A strategy whose numbers a sampler has. -/
inductive Strategy.IsInForce (s : Strategy) : Sampler → Prop
  | uniform {x d : Sampler} : s.operations = none → s.Selects x → (x == d) = true → s.IsInForce d
  | byOperation {p : OperationParameters} {t : OperationTable} : s.operations = some p →
      t.Conforms p → s.IsInForce (.perOperation t)

private theorem Strategy.IsInForce.selects {s : Strategy} {d : Sampler} (inForce : s.IsInForce d)
    (absent : s.operations = none) : ∃ x, s.Selects x ∧ (x == d) = true := by
  cases inForce with
  | @uniform x _ _ selects equal => exact ⟨x, selects, equal⟩
  | byOperation given => cases absent.symm.trans given

private theorem Strategy.IsInForce.table {s : Strategy} {d : Sampler} {p : OperationParameters}
    (inForce : s.IsInForce d) (given : s.operations = some p) :
    ∃ t, d = .perOperation t ∧ t.Conforms p := by
  cases inForce with
  | uniform absent => cases absent.symm.trans given
  | @byOperation _ t given' conforms =>
    cases given.symm.trans given'
    exact ⟨t, rfl, conforms⟩

namespace RemoteSampler

/-- A remote sampler with room for a table, and whose table, if it has one, holds distinct
operations. -/
structure IsOrderly (r : RemoteSampler) : Prop where
  room : r.HasRoom
  proper : ∀ t, r.delegate = .perOperation t → t.IsProper

/-- What applying a strategy comes to. -/
inductive Ends (r : RemoteSampler) (s : Strategy) (h : Host) :
    Option Fault × RemoteSampler × Host → Prop
  | barren {h' : Host} : s.isUsable = false →
      h.Counts r.control.metered [.samplerParsingFailure] h' → Ends r s h (none, r, h')
  | inForce {h' : Host} : s.isUsable = true → s.IsInForce r.delegate →
      h.Counts r.control.metered [] h' → Ends r s h (none, r, h')
  | applied {fault : Option Fault} {r' : RemoteSampler} {h' : Host} : s.isUsable = true →
      ¬ s.IsInForce r.delegate → s.IsInForce r'.delegate → (r'.delegate == r.delegate) = false →
      (∀ f, fault = some f → ∀ k, (r.delegate.close r.watch k).1 = some f) →
      h.Counts r.control.metered [.samplerUpdated] h' → Ends r s h (fault, r', h')

section Ends

variable {r : RemoteSampler} {s : Strategy} {h : Host}

private theorem isUsable_of_operations {p : OperationParameters} (given : s.operations = some p) :
    s.isUsable = true := by
  simp [Strategy.isUsable, given]

private theorem isUsable_of_isUniform (uniform : s.IsUniform) : s.isUsable = true := by
  rcases uniform with rate | limit
  · obtain ⟨x, given⟩ := Option.ne_none_iff_exists'.mp rate
    simp [Strategy.isUsable, given]
  · obtain ⟨x, given⟩ := Option.ne_none_iff_exists'.mp limit
    simp [Strategy.isUsable, given]

private theorem beq_of_other {d : Sampler} (other : ∀ t, d ≠ .perOperation t) (t : OperationTable) :
    (Sampler.perOperation t == d) = false := by
  cases d with
  | perOperation t' => exact absurd rfl (other t')
  | _ => rfl

private theorem ends_of_applies (sound : s.IsSound) (orderly : r.IsOrderly)
    (opened : r.control.closed = false) {result : Option Fault × RemoteSampler × Host}
    (applies : Applies r s h result) : Ends r s h result := by
  -- A sampler for all operations and a new table take over in the same way.
  have taken : ∀ (x : Sampler) (k : Host), k.tally = h.tally → s.isUsable = true →
      ¬ s.IsInForce r.delegate → s.IsInForce x → (x == r.delegate) = false →
      Ends r s h (r.replace {} x k) := by
    intro x k same usable before after differ
    have noted : h.Counts r.control.metered [] k := Host.counts_of_tally same
    unfold replace
    rw [opened, if_neg Bool.false_ne_true]
    refine .applied usable before after differ ?_ ?_
    · intro f failed k'
      rw [← failed]
      exact Sampler.fault_close _ _ _ _
    · have counted := noted.trans (k.counts_count r.control.metered .samplerUpdated) (by decide)
      exact counted.of_tally (by simp)
  have same : h.Counts r.control.metered [] h := Host.counts_of_tally rfl
  cases applies with
  | barren absent saysNothing =>
    refine .barren ?_ ((h.counts_count r.control.metered .samplerParsingFailure).of_tally rfl)
    rw [← Bool.not_eq_true]
    exact fun usable => saysNothing (isUniform_of_isUsable usable absent)
  | inForce absent selects equal =>
    exact .inForce (isUsable_of_isUniform selects.isUniform) (.uniform absent selects equal) same
  | @uniform x absent selects asked differ =>
    refine taken x h rfl (isUsable_of_isUniform selects.isUniform) ?_ ?_ differ
    · intro before
      obtain ⟨y, selects', equal⟩ := before.selects absent
      have keyed := (Sampler.hashKey?_eq_of_beq equal).symm.trans (selects'.unique selects)
      rw [selects.beq sound rfl keyed] at differ
      cases differ
    · exact .uniform absent selects (selects.beq sound rfl rfl)
  | @table p n t notices given other number made =>
    obtain ⟨m, room, enough⟩ := orderly.room
    cases number.symm.trans room
    have fine := sound.operations p given
    have conforms := OperationTable.conforms_of_create (Number.extended?_of_le enough)
      fine.bound made
    refine taken (.perOperation t) _ rfl (isUsable_of_operations given) ?_
      (.byOperation given conforms) (beq_of_other other t)
    intro before
    obtain ⟨t', same, -⟩ := before.table given
    exact other t' same
  | @unbuilt p f notices given other none =>
    obtain ⟨m, room, enough⟩ := orderly.room
    have few := none m room
    rw [Number.not_le_zero enough] at few
    cases few
  | @kept p t t' notices notices' given before updated =>
    have quiet : (t.update p h.now).result = .ok false := by rw [updated]
    have conforms := (OperationTable.update_false_iff (sound.operations p given)
      (orderly.proper t before) h.now).mp quiet
    have unchanged : t' = t := by
      have table := OperationTable.eq_of_update_false quiet
      rw [updated] at table
      exact table
    have whole : { r with delegate := .perOperation t' } = r := by rw [unchanged, ← before]
    rw [whole]
    refine .inForce (isUsable_of_operations given) ?_ (Host.counts_of_tally rfl)
    rw [before]
    exact .byOperation given conforms
  | @revised p t t' notices notices' given before updated =>
    have fine := sound.operations p given
    have proper := orderly.proper t before
    have changed : (t.update p h.now).result = .ok true := by rw [updated]
    have table : (t.update p h.now).table = t' := by rw [updated]
    obtain ⟨fresh, done⟩ := OperationTable.updated_of_update changed
    have after := done.conforms proper fine.bound
    have differ := OperationTable.beq_of_update_true fine proper changed
    rw [table] at after differ
    have noted : h.Counts r.control.metered [] { h with notices := notices' } :=
      Host.counts_of_tally rfl
    refine .applied (isUsable_of_operations given) ?_ (.byOperation given after) ?_
      (fun f failed => by cases failed)
      ((noted.trans (Host.counts_count _ _ .samplerUpdated) (by decide)).of_tally rfl)
    · intro inForce
      obtain ⟨t'', same, conforms⟩ := inForce.table given
      cases before.symm.trans same
      rw [(OperationTable.update_false_iff fine proper h.now).mpr conforms] at changed
      cases changed
    · rw [before]
      exact differ

end Ends

/-- What a poll comes to, for the reply that the source gives and the sampler as it leaves it. -/
structure Cycle (own : Watch) (r : RemoteSampler) (h : Host) : Prop where
  asked : ∃ source network,
    (r.control.source.closesFirst = false ∧
      (r.ask own h).2 = ({ r with control := { r.control with source } }, { h with network })) ∨
    r.control.source.closesFirst = true ∧ (r.ask own h).2 =
      (close own { r with control := { r.control with source } } { h with network }).2
  untouched : ∀ s, (r.ask own h).1 = .ok s → (r.ask own h).2.1.control.closed = false →
    (r.ask own h).2.1.delegate = r.delegate ∧ (r.ask own h).2.1.watch = r.watch
  failed : ∀ f, (r.ask own h).1 = .error f → ∃ h', r.update own h = (none, (r.ask own h).2.1, h') ∧
    h.Counts r.control.metered [.samplerQueryFailure] h'
  late : ∀ s, (r.ask own h).1 = .ok s → (r.ask own h).2.1.control.closed = true →
    ∃ h', r.update own h = (none, (r.ask own h).2.1, h') ∧
      h.Counts r.control.metered [.samplerRetrieved] h'
  barren : ∀ s, (r.ask own h).1 = .ok s → (r.ask own h).2.1.control.closed = false →
    s.isUsable = false → ∃ h', r.update own h = (none, (r.ask own h).2.1, h') ∧
      h.Counts r.control.metered [.samplerRetrieved, .samplerParsingFailure] h'
  inForce : ∀ s, (r.ask own h).1 = .ok s → (r.ask own h).2.1.control.closed = false →
    s.isUsable = true → s.IsInForce r.delegate →
    ∃ h', r.update own h = (none, (r.ask own h).2.1, h') ∧
      h.Counts r.control.metered [.samplerRetrieved] h'
  applied : ∀ s, (r.ask own h).1 = .ok s → (r.ask own h).2.1.control.closed = false →
    s.isUsable = true → ¬ s.IsInForce r.delegate →
    ∃ fault r' h', r.update own h = (fault, r', h') ∧ s.IsInForce r'.delegate ∧
      (r'.delegate == r.delegate) = false ∧
      (∀ f, fault = some f → ∀ k, (r.delegate.close r.watch k).1 = some f) ∧
      h.Counts r.control.metered [.samplerRetrieved, .samplerUpdated] h'

section Cycles

variable {own : Watch} {r : RemoteSampler} {h : Host}

private theorem ends_of_ask (orderly : r.IsOrderly) {s : Strategy} (given : (r.ask own h).1 = .ok s)
    (opened : (r.ask own h).2.1.control.closed = false) : ∃ h',
      h.Counts r.control.metered [.samplerRetrieved] h' ∧
      Ends (r.ask own h).2.1 s h' (r.update own h) := by
  have sound := (ask_of_open given opened).1
  obtain ⟨source, network, asked⟩ := ask_of_still_open given opened
  have applies := applies_of_isSound sound { r with control := { r.control with source } }
    (Host.count { h with network } r.control.metered .samplerRetrieved 1)
  have still : IsOrderly { r with control := { r.control with source } } :=
    ⟨orderly.room, orderly.proper⟩
  rw [asked] at opened ⊢
  rw [update_of_asked asked opened]
  refine ⟨_, ?_, ends_of_applies sound still opened applies⟩
  exact Host.counts_count { h with network } r.control.metered .samplerRetrieved

private theorem counts_ask (own : Watch) (r : RemoteSampler) (h : Host) (metered : Bool) :
    h.Counts metered [] (r.ask own h).2.2 :=
  Host.counts_of_tally (tally_ask r h own)

private theorem delegate_of_ask {s : Strategy} (given : (r.ask own h).1 = .ok s)
    (opened : (r.ask own h).2.1.control.closed = false) :
    (r.ask own h).2.1.delegate = r.delegate ∧ (r.ask own h).2.1.watch = r.watch := by
  obtain ⟨source, network, asked⟩ := ask_of_still_open given opened
  rw [asked]
  exact ⟨rfl, rfl⟩

private theorem cycle_of_isOrderly (own : Watch) (orderly : r.IsOrderly) (h : Host) :
    Cycle own r h := by
  have frame := (keepsFrame_ask own r h).metered
  have quiet := counts_ask own r h r.control.metered
  constructor
  · obtain ⟨source, network, ⟨stays, asked⟩ | ⟨closes, asked, -⟩⟩ := ask_cases own r h
    · exact ⟨source, network, .inl ⟨stays, asked⟩⟩
    · exact ⟨source, network, .inr ⟨closes, asked⟩⟩
  · exact fun s given opened => delegate_of_ask given opened
  · intro f failed
    refine ⟨_, update_of_refused (Prod.ext failed rfl), ?_⟩
    have counted := quiet.trans ((r.ask own h).2.2.counts_count r.control.metered
      .samplerQueryFailure) (by decide)
    refine counted.of_tally ?_
    simp [heed, frame]
  · intro s given closed
    refine ⟨_, update_of_late (Prod.ext given rfl) closed, ?_⟩
    rw [frame]
    exact quiet.trans ((r.ask own h).2.2.counts_count r.control.metered .samplerRetrieved)
      (by decide)
  · intro s given opened useless
    obtain ⟨k, retrieved, ends⟩ := ends_of_ask orderly given opened
    generalize r.update own h = result at ends ⊢
    cases ends with
    | @barren h' _ counted =>
      rw [frame] at counted
      exact ⟨h', rfl, retrieved.trans counted (by decide)⟩
    | inForce usable | applied usable =>
      rw [useless] at usable
      cases usable
  · intro s given opened usable before
    obtain ⟨k, retrieved, ends⟩ := ends_of_ask orderly given opened
    obtain ⟨delegate, -⟩ := delegate_of_ask given opened
    generalize r.update own h = result at ends ⊢
    cases ends with
    | barren useless =>
      rw [useless] at usable
      cases usable
    | @inForce h' _ _ counted =>
      rw [frame] at counted
      exact ⟨h', rfl, retrieved.trans counted (by decide)⟩
    | applied _ other =>
      rw [delegate] at other
      exact absurd before other
  · intro s given opened usable before
    obtain ⟨k, retrieved, ends⟩ := ends_of_ask orderly given opened
    obtain ⟨delegate, watch⟩ := delegate_of_ask given opened
    generalize r.update own h = result at ends ⊢
    cases ends with
    | barren useless =>
      rw [useless] at usable
      cases usable
    | inForce _ there =>
      rw [delegate] at there
      exact absurd there before
    | @applied fault r' h' _ _ after differ failed counted =>
      rw [frame] at counted
      rw [delegate] at differ
      rw [delegate, watch] at failed
      exact ⟨fault, r', h', rfl, after, differ, failed, retrieved.trans counted (by decide)⟩

end Cycles

section Orderly

variable {r : RemoteSampler} {h : Host}

private theorem isProper_enroll {t : OperationTable} (proper : t.IsProper) (now : Number)
    (operation : String) : (t.enroll now operation).IsProper := by
  have capacity : (t.enroll now operation).maxOperations = t.maxOperations := by
    unfold OperationTable.enroll
    split
    · rfl
    · split <;> rfl
  exact ⟨capacity ▸ proper.number, OperationTable.nodup_names_enroll proper.distinct now operation⟩

private theorem isProper_sampleGiven {d : Sampler} (proper : ∀ t, d = .perOperation t → t.IsProper)
    (now : Number) (operation traceId : Json) :
    ∀ t, (d.sampleGiven now operation traceId).2 = .perOperation t → t.IsProper := by
  intro t' after
  have kept := d.kind_sampleGiven now operation traceId
  rw [after] at kept
  rcases d.sampleGiven_cases now operation traceId with same | ⟨id, status, answered⟩ | same
  · exact proper t' (same.symm.trans after)
  · rw [after] at answered
    rcases Sampler.sample_cases answered with ⟨t₁, t₂, there, asked, left⟩ | ⟨-, other, -⟩
    · cases left
      exact (proper t₁ there).of_sample asked
    · exact absurd rfl (other t')
  · rw [after] at same
    cases d with
    | perOperation t =>
      cases same
      exact isProper_enroll (proper t rfl) _ _
    | _ => cases kept

private theorem isProper_close {d : Sampler} (proper : ∀ t, d = .perOperation t → t.IsProper)
    (watch : Watch) (h : Host) : ∀ t, (d.close watch h).2.1 = .perOperation t → t.IsProper := by
  intro t after
  cases d with
  | remote control delegateWatch delegate =>
    rw [Sampler.close] at after
    dsimp only at after
    split at after
    · cases after
    · split at after
      · cases after
      · split at after <;> cases after
  | perOperation t' => exact proper t after
  | _ => cases after

private theorem isOrderly_close (own : Watch) (orderly : r.IsOrderly) (h : Host) :
    (r.close own h).2.1.IsOrderly := by
  have closed := isProper_close orderly.proper r.watch (own.record h)
  rcases close_cases own r h with ⟨f, -, done⟩ | ⟨-, -, done⟩ | ⟨-, -, source, done⟩
  · rw [done]
    exact orderly
  · rw [done]
    exact orderly
  · rw [done]
    exact ⟨orderly.room, closed⟩

private theorem isOrderly_ask (own : Watch) (orderly : r.IsOrderly) (h : Host) :
    (r.ask own h).2.1.IsOrderly := by
  refine of_ask (P := fun r' _ => r'.IsOrderly) own r h ?_ ?_
  · exact fun _ _ => ⟨orderly.room, orderly.proper⟩
  · exact fun _ h' still => isOrderly_close own still h'

private theorem isOrderly_replace (orderly : r.IsOrderly) (watch : Watch) {s : Sampler}
    (proper : ∀ t, s = .perOperation t → t.IsProper) (h : Host) :
    (r.replace watch s h).2.1.IsOrderly := by
  unfold replace
  split
  · exact orderly
  · exact ⟨orderly.room, proper⟩

private theorem isOrderly_update (own : Watch) (orderly : r.IsOrderly) (h : Host) :
    (r.update own h).2.1.IsOrderly := by
  have asked := isOrderly_ask own orderly h
  rcases update_cases own r h with ⟨f, -, done⟩ | ⟨s, -, -, done⟩ |
    ⟨opened, s, source, network, met, sound, applies⟩
  · rw [done]
    exact asked
  · rw [done]
    exact asked
  · rw [met] at asked
    generalize r.update own h = result at applies ⊢
    cases applies with
    | barren | inForce | unbuilt => exact asked
    | uniform absent selects chosen differ =>
      refine isOrderly_replace asked {} ?_ _
      rintro t rfl
      cases selects
    | table given other number made =>
      obtain ⟨n, room, enough⟩ := asked.room
      cases number.symm.trans room
      have conforms := OperationTable.conforms_of_create (Number.extended?_of_le enough)
        (sound.operations _ given).bound made
      refine isOrderly_replace asked {} ?_ _
      rintro t ⟨⟩
      exact conforms.proper
    | kept given before updated | revised given before updated =>
      have proper := asked.proper _ before
      refine ⟨asked.room, ?_⟩
      rintro t ⟨⟩
      obtain ⟨changed, went⟩ : ∃ changed, (OperationTable.update _ _ _).result = .ok changed :=
        ⟨_, congrArg OperationTable.Outcome.result updated⟩
      obtain ⟨fresh, done⟩ := OperationTable.updated_of_update went
      have after := done.conforms proper (sound.operations _ given).bound
      rw [updated] at after
      exact after.proper

private theorem isOrderly_watching {r' : RemoteSampler} (orderly : r'.IsOrderly) (fresh : Watch) :
    (r.watching fresh r').IsOrderly := by
  unfold watching
  split
  · exact orderly
  · exact ⟨orderly.room, orderly.proper⟩

private theorem isOrderly_step (own : Watch) (orderly : r.IsOrderly) (h : Host) (t : Turn)
    (handed : ∀ watch table, t = .replace watch (.perOperation table) → table.IsProper) :
    (r.step own h t).1.IsOrderly := by
  cases t with
  | sample operation traceId =>
    rw [step_sample]
    exact ⟨orderly.room, isProper_sampleGiven orderly.proper h.now operation traceId⟩
  | update fresh => exact isOrderly_watching (isOrderly_update own orderly h) fresh
  | poll fresh =>
    obtain ⟨notices, polled⟩ := poll_eq own r h
    unfold step
    rw [polled]
    exact isOrderly_watching (isOrderly_update own orderly h) fresh
  | replace watch s =>
    refine isOrderly_replace orderly watch ?_ h
    rintro table rfl
    exact handed watch table rfl
  | close => exact isOrderly_close own orderly h
  | meet now source network => exact ⟨orderly.room, orderly.proper⟩

private theorem isOrderly_steps (own : Watch) (orderly : r.IsOrderly) (h : Host) (turns : List Turn)
    (handed : ∀ watch table, .replace watch (.perOperation table) ∈ turns → table.IsProper) :
    (r.steps own h turns).1.IsOrderly := by
  induction turns generalizing r h with
  | nil => exact orderly
  | cons t rest ih =>
    have next := isOrderly_step own orderly h t fun watch table same =>
      handed watch table (same ▸ List.mem_cons_self)
    exact ih next _ fun watch table m => handed watch table (List.mem_cons_of_mem _ m)

end Orderly

def Turn.isPoll : Turn → Bool
  | .update _ | .poll _ => true
  | _ => false

/-- The replies that polls have counted, of both kinds. -/
def replies (h : Host) : Int := h.tally.get .samplerRetrieved + h.tally.get .samplerQueryFailure

section Replies

variable {r : RemoteSampler} {h : Host}

private theorem replies_of_tally {h' : Host} (same : h'.tally = h.tally) :
    replies h' = replies h := by
  unfold replies
  rw [same]

private theorem metered_replace (watch : Watch) (s : Sampler) :
    (r.replace watch s h).2.1.control.metered = r.control.metered := by
  unfold replace
  split <;> rfl

private theorem replies_replace (watch : Watch) (s : Sampler) :
    replies (r.replace watch s h).2.2 = replies h := by
  unfold replace
  split
  · exact replies_of_tally (Sampler.tally_close watch h s)
  · simp [replies]

private theorem replies_of_applies {s : Strategy} {result : Option Fault × RemoteSampler × Host}
    (applies : Applies r s h result) :
    replies result.2.2 = replies h ∧ result.2.1.control.metered = r.control.metered := by
  cases applies with
  | barren | revised => simp [replies]
  | inForce | unbuilt | kept => exact ⟨rfl, rfl⟩
  | uniform | table => exact ⟨replies_replace _ _, metered_replace _ _⟩

private theorem replies_update (own : Watch) (r : RemoteSampler) (h : Host) :
    replies (r.update own h).2.2 = replies h + (if r.control.metered = true then 1 else 0) ∧
      (r.update own h).2.1.control.metered = r.control.metered := by
  have frame := (keepsFrame_ask own r h).metered
  have asked : replies (r.ask own h).2.2 = replies h := replies_of_tally (tally_ask r h own)
  rcases update_cases own r h with ⟨f, -, done⟩ | ⟨s, -, -, done⟩ |
    ⟨opened, s, source, network, -, sound, applies⟩
  · rw [done, ← asked]
    refine ⟨?_, frame⟩
    simp [heed, replies, frame, add_assoc]
  · rw [done, ← asked]
    refine ⟨?_, frame⟩
    simp [replies, frame, add_right_comm]
  · obtain ⟨same, metered⟩ := replies_of_applies applies
    refine ⟨?_, metered⟩
    rw [same]
    simp [replies, add_right_comm]

private theorem metered_watching {r' : RemoteSampler} (fresh : Watch) :
    (r.watching fresh r').control.metered = r'.control.metered := by
  unfold watching
  split <;> rfl

private theorem replies_step (own : Watch) (r : RemoteSampler) (h : Host) (t : Turn) :
    replies (r.step own h t).2 =
        replies h + (if r.control.metered = true ∧ t.isPoll = true then 1 else 0) ∧
      (r.step own h t).1.control.metered = r.control.metered := by
  obtain ⟨counted, metered⟩ := replies_update own r h
  cases t with
  | sample operation traceId =>
    rw [step_sample]
    simp [Turn.isPoll]
  | update fresh =>
    refine ⟨?_, (metered_watching fresh).trans metered⟩
    show replies (r.update own h).2.2 = _
    simpa [Turn.isPoll] using counted
  | poll fresh =>
    obtain ⟨notices, polled⟩ := poll_eq own r h
    unfold step
    rw [polled]
    refine ⟨?_, (metered_watching fresh).trans metered⟩
    show replies (r.update own h).2.2 = _
    simpa [Turn.isPoll] using counted
  | replace watch s =>
    refine ⟨?_, metered_replace watch s⟩
    show replies (r.replace watch s h).2.2 = _
    simpa [Turn.isPoll] using replies_replace watch s
  | close =>
    refine ⟨?_, (keepsFrame_close own r h).metered⟩
    show replies (r.close own h).2.2 = _
    simpa [Turn.isPoll] using replies_of_tally (tally_close r h own)
  | meet now source network => simp [step, Turn.isPoll, replies]

private theorem replies_steps (own : Watch) (r : RemoteSampler) (h : Host) (turns : List Turn) :
    replies (r.steps own h turns).2 =
      replies h + if r.control.metered = true then (turns.countP Turn.isPoll : Int) else 0 := by
  induction turns generalizing r h with
  | nil => simp [steps]
  | cons t rest ih =>
    obtain ⟨counted, metered⟩ := replies_step own r h t
    rw [steps, ih, counted, metered, List.countP_cons]
    cases r.control.metered <;> cases t.isPoll <;> simp
    omega

end Replies

/-- In every state that turns lead to, the next poll comes to exactly one end, and the counters have
grown by one reply for each poll so far. -/
theorem cycle_of_steps (own : Watch) (r : RemoteSampler) (h : Host) (orderly : r.IsOrderly)
    (turns : List Turn)
    (handed : ∀ watch table, .replace watch (.perOperation table) ∈ turns → table.IsProper) :
    Cycle own (r.steps own h turns).1 (r.steps own h turns).2 ∧
      replies (r.steps own h turns).2 =
        replies h + if r.control.metered = true then (turns.countP Turn.isPoll : Int) else 0 :=
  ⟨cycle_of_isOrderly own (isOrderly_steps own orderly h turns handed) _,
    replies_steps own r h turns⟩

theorem halved_counted_once :
    Cycle {} (aboutToHalve (.const true)) {} ∧
      Cycle {} ((aboutToHalve (.const true)).steps {} {} [.update {}, .poll {}]).1
        ((aboutToHalve (.const true)).steps {} {} [.update {}, .poll {}]).2 ∧
      replies ((aboutToHalve (.const true)).steps {} {} [.update {}, .poll {}]).2 = 2 ∧
      ((aboutToHalve (.const true)).steps {} {} [.update {}, .poll {}]).2.tally.get
        .samplerUpdated = 1 := by
  have orderly : (aboutToHalve (.const true)).IsOrderly := by
    refine ⟨⟨.integer 10, rfl, by decide⟩, ?_⟩
    intro t delegate
    cases delegate
  obtain ⟨first, -⟩ := cycle_of_steps {} _ {} orderly [] fun watch table m => by cases m
  obtain ⟨later, counted⟩ := cycle_of_steps {} _ {} orderly [.update {}, .poll {}]
    fun watch table m => by simp at m
  exact ⟨first, later, counted, rfl⟩

end RemoteSampler

end Tracing
