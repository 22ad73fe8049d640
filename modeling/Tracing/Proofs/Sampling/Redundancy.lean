import Tracing.Proofs.Sampling.Repetition
/-!
Polls that bring nothing new leave no trace in what a remote sampler answers. Such are polls that
fail, that bring a document without a strategy, and that bring the document once more that was last
applied. Runs with and without them keep one delegate throughout, all its credits included.
-/

set_option autoImplicit false
set_option relaxedAutoImplicit false

namespace Tracing

open OperationTable (find?)

@[simp] theorem Host.now_log (h : Host) (n : Notice) : (h.log n).now = h.now := rfl

@[simp] theorem Host.now_count (h : Host) (metered : Bool) (i : Metrics.Instrument) (n : Nat) :
    (h.count metered i n).now = h.now := by
  cases metered <;> rfl

private theorem Sampler.now_close (watch : Watch) (h : Host) (s : Sampler) :
    (s.close watch h).2.2.now = h.now := by
  have recorded : ∀ (w : Watch) (h : Host), (w.record h).now = h.now := by
    intro w h
    unfold Watch.record
    cases w.label <;> rfl
  induction s generalizing watch h with
  | remote control delegateWatch delegate ih =>
    unfold Sampler.close
    dsimp only
    split
    · exact recorded watch h
    · split
      · exact recorded watch h
      · have inner := ih delegateWatch (watch.record h)
        split <;> exact inner.trans (recorded watch h)
  | _ => exact recorded watch h

theorem Number.extended?_of_le {m n : Number} (h : m.le n = true) : n.extended? ≠ none := by
  intro none
  have below : m.lt n = false := by
    unfold lt
    rw [none]
    cases m.extended? <;> rfl
  have same : m.eq n = false := by
    unfold eq
    rw [none]
    cases m.extended? <;> rfl
  rw [le, below, same] at h
  cases h

section Questions

variable {d d' : Sampler} {now : Number} {operation : String} {traceId : Int}
  {status : SamplingStatus}

/-- A question to a table is a question to a table before and after; a question to a sampler of any
other kind leaves its numbers alone. -/
theorem Sampler.sample_cases (h : d.sample now operation traceId = .ok (status, d')) :
    (∃ t t', d = .perOperation t ∧ t.sample now operation traceId = .ok (status, t') ∧
        d' = .perOperation t') ∨
      (∀ t, d ≠ .perOperation t) ∧ (∀ t, d' ≠ .perOperation t) ∧ d'.hashKey? = d.hashKey? := by
  cases d with
  | const decision =>
    cases h
    exact .inr ⟨fun _ => Sampler.noConfusion, fun _ => Sampler.noConfusion, rfl⟩
  | probabilistic rate =>
    cases h
    exact .inr ⟨fun _ => Sampler.noConfusion, fun _ => Sampler.noConfusion, rfl⟩
  | rateLimiting t =>
    obtain ⟨answer, limited, same⟩ := ok_of_map h
    obtain ⟨granted, asked, rfl⟩ := ok_of_map limited
    cases same
    refine .inr ⟨fun _ => Sampler.noConfusion, fun _ => Sampler.noConfusion, ?_⟩
    simp only [hashKey?, Throughput.limit_of_ask asked]
  | guaranteed g =>
    obtain ⟨answer, answered, same⟩ := ok_of_map h
    cases same
    obtain ⟨rates, bounds⟩ := Guaranteed.parts_of_sample answered
    refine .inr ⟨fun _ => Sampler.noConfusion, fun _ => Sampler.noConfusion, ?_⟩
    simp only [hashKey?, rates, bounds]
  | perOperation t =>
    obtain ⟨answer, answered, same⟩ := ok_of_map h
    cases same
    exact .inl ⟨t, _, rfl, answered, rfl⟩
  | remote control watch delegate =>
    obtain ⟨answer, answered, same⟩ := ok_of_map h
    cases same
    exact .inr ⟨fun _ => Sampler.noConfusion, fun _ => Sampler.noConfusion, rfl⟩

end Questions

namespace RemoteSampler

/-- What a poll meets at its moment: a source that does not close the sampler, and a network. -/
structure Poll where
  source : StrategySource
  network : Http.Network
  unclosing : source.closesFirst = false

def Poll.reply (q : Poll) (service : Json) : Except Fault Strategy :=
  (q.source.fetch service q.network).1

/-- What happens to an open sampler. -/
inductive Event where
  | sample (operation : String) (traceId : Int)
  | clock (now : Number)
  | poll (q : Poll)

/-- The sampler and its surroundings after an event. A question that is not answered changes
nothing. -/
def next (own : Watch) (r : RemoteSampler) (h : Host) : Event → RemoteSampler × Host
  | .sample operation traceId =>
    match r.toSampler.sample h.now operation traceId with
    | .ok (_, s) => ((ofSampler? s).getD r, h)
    | .error _ => (r, h)
  | .clock now => (r, { h with now })
  | .poll q =>
    poll own { r with control := { r.control with source := q.source } }
      { h with network := q.network }

def run (own : Watch) (r : RemoteSampler) (h : Host) : List Event → RemoteSampler × Host
  | [] => (r, h)
  | e :: rest => run own (r.next own h e).1 (r.next own h e).2 rest

def answer? (r : RemoteSampler) (h : Host) : Event → Option (Except Fault SamplingStatus)
  | .sample operation traceId =>
    some ((r.toSampler.sample h.now operation traceId).map Prod.fst)
  | _ => none

def answers (own : Watch) (r : RemoteSampler) (h : Host) :
    List Event → List (Except Fault SamplingStatus)
  | [] => []
  | e :: rest =>
    (r.answer? h e).toList ++ answers own (r.next own h e).1 (r.next own h e).2 rest

/-- A poll that brings nothing new, after a document that was the last to say anything about
sampling. -/
inductive Redundant (service : Json) (last : Option Strategy) (q : Poll) : Prop
  | failed {f : Fault} : q.reply service = .error f → Redundant service last q
  | barren {s : Strategy} : q.reply service = .ok s → s.isUsable = false →
      Redundant service last q
  | repeated {s s' : Strategy} : last = some s → q.reply service = .ok s' → s.Same s' →
      Redundant service last q

def lastAfter (service : Json) (last : Option Strategy) : Event → Option Strategy
  | .poll q =>
    match q.reply service with
    | .ok s => if s.isUsable then some s else last
    | .error _ => last
  | _ => last

/-- One run is another without some of its redundant polls. What is redundant is decided by the
longer run. -/
inductive Thins (service : Json) : Option Strategy → List Event → List Event → Prop
  | nil (last : Option Strategy) : Thins service last [] []
  | keep {last : Option Strategy} (e : Event) {events fewer : List Event} :
      Thins service (lastAfter service last e) events fewer →
      Thins service last (e :: events) (e :: fewer)
  | drop {last : Option Strategy} {q : Poll} {events fewer : List Event} :
      Redundant service last q → Thins service (lastAfter service last (.poll q)) events fewer →
      Thins service last (.poll q :: events) fewer

/-- All that the answers of an open sampler depend on. -/
structure Stance where
  service : Json
  maxOperations : Json
  now : Number
  delegate : Sampler

namespace Stance

/-- The delegate after rates by operation are applied. -/
def applyOperations (a : Stance) (p : OperationParameters) : Sampler :=
  match a.delegate with
  | .perOperation table => .perOperation (table.update p a.now).table
  | _ =>
    match a.maxOperations.number with
    | .error _ => a.delegate
    | .ok n =>
      match (OperationTable.create n p a.now).1 with
      | .error _ => a.delegate
      | .ok table => .perOperation table

/-- The delegate after a strategy for all operations alike is applied. -/
def applyUniform (a : Stance) (s : Strategy) : Sampler :=
  match s.sampler? a.now with
  | .ok (some x) => if x == a.delegate then a.delegate else x
  | _ => a.delegate

def apply (a : Stance) (s : Strategy) : Stance where
  service := a.service
  maxOperations := a.maxOperations
  now := a.now
  delegate :=
    match s.operations with
    | some p => a.applyOperations p
    | none => a.applyUniform s

def heed (a : Stance) : Except Fault Strategy → Stance
  | .ok s => a.apply s
  | .error _ => a

def next (a : Stance) : Event → Stance
  | .sample operation traceId =>
    match a.delegate.sample a.now operation traceId with
    | .ok (_, d) => { a with delegate := d }
    | .error _ => a
  | .clock now => { a with now }
  | .poll q => a.heed (q.reply a.service)

end Stance

/-- The sampler is open and stands so. -/
structure Stands (r : RemoteSampler) (h : Host) (a : Stance) : Prop where
  opened : r.control.closed = false
  stance : a = ⟨r.control.service, r.control.maxOperations, h.now, r.delegate⟩

section Steps

variable {own : Watch} {r : RemoteSampler} {h : Host} {a : Stance}

private theorem Stands.replace (stands : Stands r h a) (watch : Watch) (x : Sampler) :
    Stands (r.replace watch x h).2.1 (r.replace watch x h).2.2 { a with delegate := x } := by
  obtain ⟨opened, rfl⟩ := stands
  unfold RemoteSampler.replace
  rw [opened]
  refine ⟨opened, ?_⟩
  simp [Sampler.now_close]

private theorem Stands.applyOperations (stands : Stands r h a) (p : OperationParameters) :
    Stands (r.applyOperations p h).2.1 (r.applyOperations p h).2.2
      { a with delegate := a.applyOperations p } := by
  obtain ⟨control, watch, delegate⟩ := r
  obtain ⟨opened, rfl⟩ := stands
  cases delegate with
  | perOperation table =>
    unfold RemoteSampler.applyOperations Stance.applyOperations
    dsimp only
    cases (table.update p h.now).result with
    | error f => exact ⟨opened, rfl⟩
    | ok changed =>
      cases changed with
      | false => exact ⟨opened, rfl⟩
      | true => exact ⟨opened, by simp⟩
  | _ =>
    unfold RemoteSampler.applyOperations Stance.applyOperations
    dsimp only
    cases control.maxOperations.number with
    | error f => exact ⟨opened, rfl⟩
    | ok n =>
      dsimp only
      cases (OperationTable.create n p h.now).1 with
      | error f => exact ⟨opened, rfl⟩
      | ok table => exact Stands.replace ⟨opened, rfl⟩ {} (.perOperation table)

private theorem Stands.applyUniform (stands : Stands r h a) (s : Strategy) :
    Stands (r.applyUniform s h).2.1 (r.applyUniform s h).2.2
      { a with delegate := a.applyUniform s } := by
  obtain ⟨opened, rfl⟩ := stands
  unfold RemoteSampler.applyUniform Stance.applyUniform
  dsimp only
  cases s.sampler? h.now with
  | error f => exact ⟨opened, rfl⟩
  | ok asked =>
    cases asked with
    | none => exact ⟨opened, by simp⟩
    | some x =>
      dsimp only
      cases x == r.delegate with
      | true => exact ⟨opened, rfl⟩
      | false => exact Stands.replace ⟨opened, rfl⟩ {} x

private theorem Stands.apply (stands : Stands r h a) (s : Strategy) :
    Stands (r.apply s h).2.1 (r.apply s h).2.2 (a.apply s) := by
  unfold RemoteSampler.apply Stance.apply
  cases s.operations with
  | some p => exact stands.applyOperations p
  | none => exact stands.applyUniform s

private theorem ask_poll (own : Watch) (r : RemoteSampler) (h : Host) (q : Poll) : ∃ source network,
    ask own { r with control := { r.control with source := q.source } }
        { h with network := q.network } =
      (q.reply r.control.service, { r with control := { r.control with source } },
        { h with network }) := by
  refine ⟨(q.source.fetch r.control.service q.network).2.1,
    (q.source.fetch r.control.service q.network).2.2, ?_⟩
  unfold ask
  rw [q.unclosing]
  rfl

private theorem Stands.of_update (updated : Stands (r.update own h).2.1 (r.update own h).2.2 a) :
    Stands (RemoteSampler.poll own r h).1 (RemoteSampler.poll own r h).2 a := by
  unfold RemoteSampler.poll
  cases outcome : r.update own h with
  | mk fault rest =>
    rw [outcome] at updated
    cases fault with
    | none => exact updated
    | some f => exact ⟨updated.opened, updated.stance⟩

theorem update_of_refused {r' : RemoteSampler} {h' : Host} {f : Fault}
    (asked : r.ask own h = (.error f, r', h')) :
    r.update own h = (none, r', (r'.heed (.error f) h').2) := by
  unfold update fetch
  rw [asked]
  rfl

theorem update_of_asked {r' : RemoteSampler} {h' : Host} {s : Strategy}
    (asked : r.ask own h = (.ok s, r', h')) (opened : r'.control.closed = false) :
    r.update own h = r'.apply s (h'.count r'.control.metered .samplerRetrieved 1) := by
  unfold update fetch
  rw [asked]
  dsimp only [heed]
  rw [opened]
  rfl

private theorem Stands.poll (stands : Stands r h a) (own : Watch) (q : Poll) :
    Stands (r.next own h (.poll q)).1 (r.next own h (.poll q)).2 (a.next (.poll q)) := by
  obtain ⟨opened, rfl⟩ := stands
  obtain ⟨source, network, asked⟩ := ask_poll own r h q
  refine Stands.of_update ?_
  show Stands _ _ (Stance.heed _ (q.reply r.control.service))
  cases reply : q.reply r.control.service with
  | error f =>
    rw [reply] at asked
    rw [update_of_refused asked]
    exact ⟨opened, by simp [heed, Stance.heed]⟩
  | ok s =>
    rw [reply] at asked
    rw [update_of_asked asked opened]
    have counted : Stands { r with control := { r.control with source } }
        (Host.count { h with network } r.control.metered .samplerRetrieved 1)
        ⟨r.control.service, r.control.maxOperations, h.now, r.delegate⟩ :=
      ⟨opened, by simp⟩
    exact counted.apply s

private theorem Stands.next (stands : Stands r h a) (own : Watch) (e : Event) :
    Stands (r.next own h e).1 (r.next own h e).2 (a.next e) := by
  cases e with
  | poll q => exact stands.poll own q
  | clock now =>
    obtain ⟨opened, rfl⟩ := stands
    exact ⟨opened, rfl⟩
  | sample operation traceId =>
    obtain ⟨opened, rfl⟩ := stands
    have asked : r.toSampler.sample h.now operation traceId =
        (r.delegate.sample h.now operation traceId).map fun answer =>
          (answer.1, .remote r.control r.watch answer.2) := rfl
    unfold RemoteSampler.next Stance.next
    dsimp only
    rw [asked]
    cases r.delegate.sample h.now operation traceId with
    | error f => exact ⟨opened, rfl⟩
    | ok answer => exact ⟨opened, rfl⟩

private theorem Stands.answer? {r' : RemoteSampler} {h' : Host} (stands : Stands r h a)
    (stands' : Stands r' h' a) (e : Event) : r'.answer? h' e = r.answer? h e := by
  obtain ⟨-, rfl⟩ := stands
  obtain ⟨-, same⟩ := stands'
  obtain ⟨-, -, now, delegate⟩ := Stance.mk.inj same
  have asked : ∀ (r : RemoteSampler) (h : Host) (operation : String) (traceId : Int),
      r.answer? h (.sample operation traceId) =
        some ((r.delegate.sample h.now operation traceId).map Prod.fst) := by
    intro r h operation traceId
    simp only [RemoteSampler.answer?, toSampler, Sampler.sample]
    cases r.delegate.sample h.now operation traceId <;> rfl
  cases e with
  | sample operation traceId => rw [asked, asked, now, delegate]
  | clock now => rfl
  | poll q => rfl

end Steps

/-- The last document that said anything about sampling is in force. -/
structure Heeds (last : Option Strategy) (a : Stance) : Prop where
  room : ∃ n, a.maxOperations.number = .ok n ∧ (Number.integer 1).le n = true
  proper : ∀ t, a.delegate = .perOperation t → t.IsProper
  byOperation : ∀ s p, last = some s → s.operations = some p →
    ∃ t, a.delegate = .perOperation t ∧ t.Conforms p
  uniform : ∀ s, last = some s → s.operations = none →
    ∃ x, s.Selects x ∧ a.delegate.hashKey? = x.hashKey?

section Heeding

variable {last : Option Strategy} {a : Stance} {s s' : Strategy}

theorem isUniform_of_isUsable (usable : s.isUsable = true) (absent : s.operations = none) :
    s.IsUniform := by
  unfold Strategy.isUsable at usable
  rw [absent] at usable
  rcases Bool.or_eq_true_iff.mp usable with rate | limit
  · exact .inl fun none => by simp [none] at rate
  · exact .inr fun none => by simp [none] at limit

private theorem Stance.apply_of_not_isUsable (barren : s.isUsable = false) : a.apply s = a := by
  simp only [Strategy.isUsable, Bool.or_eq_false_iff, Option.isSome_eq_false_iff,
    Option.isNone_iff_eq_none] at barren
  obtain ⟨⟨absent, noRate⟩, noLimit⟩ := barren
  have none : s.sampler? a.now = .ok none :=
    Strategy.sampler?_of_not_isUniform (by simp [Strategy.IsUniform, noRate, noLimit]) a.now
  unfold Stance.apply Stance.applyUniform
  rw [absent, none]

private theorem Heeds.apply_of_same (heeds : Heeds (some s) a) (same : s.Same s')
    (sound : s'.IsSound) :
    a.apply s' = a := by
  obtain ⟨service, maxOperations, now, delegate⟩ := a
  have operations := same.operations
  unfold Stance.apply
  cases given : s'.operations with
  | some q =>
    rw [given] at operations
    cases before : s.operations with
    | none =>
      rw [before] at operations
      cases operations
    | some p =>
      rw [before] at operations
      cases operations with
      | some equal =>
        obtain ⟨t, rfl, conforms⟩ := heeds.byOperation s p rfl before
        have share := (sound.operations q given).rate
        obtain ⟨notices, updated⟩ :=
          OperationTable.update_of_conforms (conforms.of_same equal) share now
        simp only [Stance.applyOperations, updated]
  | none =>
    rw [given] at operations
    cases before : s.operations with
    | some p =>
      rw [before] at operations
      cases operations
    | none =>
      obtain ⟨x, selects, keyed⟩ := heeds.uniform s rfl before
      obtain ⟨y, asked, equal⟩ := Strategy.sampler?_of_same same sound now selects keyed
      simp only [Stance.applyUniform, asked, equal, if_true]

private theorem Heeds.next_of_redundant {q : Poll} (heeds : Heeds last a)
    (redundant : Redundant a.service last q) : a.next (.poll q) = a := by
  show a.heed (q.reply a.service) = a
  cases redundant with
  | failed reply =>
    rw [reply]
    rfl
  | barren reply unusable =>
    rw [reply]
    exact Stance.apply_of_not_isUsable unusable
  | repeated before reply same =>
    rw [reply]
    have sound := StrategySource.isSound_of_fetch reply
    exact Heeds.apply_of_same (before ▸ heeds) same sound

private theorem Heeds.of_sample (heeds : Heeds last a) {operation : String} {traceId : Int}
    {status : SamplingStatus} {d : Sampler}
    (answered : a.delegate.sample a.now operation traceId = .ok (status, d)) :
    Heeds last { a with delegate := d } := by
  have proper := heeds.proper
  rcases Sampler.sample_cases answered with ⟨t, t', same, asked, rfl⟩ | ⟨other, still, keyed⟩
  · refine ⟨heeds.room, ?_, ?_, ?_⟩
    · rintro t'' ⟨⟩
      exact (proper t same).of_sample asked
    · intro s p before given
      obtain ⟨earlier, same', conforms⟩ := heeds.byOperation s p before given
      cases same.symm.trans same'
      exact ⟨t', rfl, conforms.of_sample asked⟩
    · intro s before absent
      obtain ⟨x, selects, keyed⟩ := heeds.uniform s before absent
      rw [same] at keyed
      exact ⟨x, selects, keyed⟩
  · refine ⟨heeds.room, ?_, ?_, ?_⟩
    · intro t same
      exact absurd same (still t)
    · intro s p before given
      obtain ⟨t, same, -⟩ := heeds.byOperation s p before given
      exact absurd same (other t)
    · intro s before absent
      obtain ⟨x, selects, same⟩ := heeds.uniform s before absent
      exact ⟨x, selects, keyed.trans same⟩

private theorem Heeds.applyOperations (heeds : Heeds last a) {p : OperationParameters}
    (sound : p.IsSound) : ∃ t, a.applyOperations p = .perOperation t ∧ t.Conforms p := by
  obtain ⟨service, maxOperations, now, delegate⟩ := a
  obtain ⟨n, number, enough⟩ := heeds.room
  cases delegate with
  | perOperation t =>
    obtain ⟨changed, t', notices, done, -⟩ := OperationTable.follows_of_update t sound now
    have went : (t.update p now).result = .ok changed := by rw [done]
    obtain ⟨fresh, updated⟩ := OperationTable.updated_of_update went
    exact ⟨_, rfl, updated.conforms (heeds.proper t rfl) sound.bound⟩
  | _ =>
    obtain ⟨t, notices, created, -⟩ := OperationTable.follows_of_create sound enough now
    have made : (OperationTable.create n p now).1 = .ok t := by rw [created]
    refine ⟨t, ?_, OperationTable.conforms_of_create (Number.extended?_of_le enough)
      sound.bound made⟩
    unfold Stance.applyOperations
    dsimp only
    rw [number]
    dsimp only
    rw [made]

private theorem Stance.hashKey?_applyUniform (sound : s.IsSound) (uniform : s.IsUniform) :
    ∃ x, s.Selects x ∧ (a.applyUniform s).hashKey? = x.hashKey? := by
  obtain ⟨x, asked, selects⟩ := Strategy.selects_of_sampler? sound uniform a.now
  refine ⟨x, selects, ?_⟩
  unfold Stance.applyUniform
  rw [asked]
  dsimp only
  split
  case isTrue same => exact (Sampler.hashKey?_eq_of_beq same).symm
  case isFalse => rfl

private theorem Heeds.apply (heeds : Heeds last a) (sound : s.IsSound)
    (usable : s.isUsable = true) :
    Heeds (some s) (a.apply s) := by
  unfold Stance.apply
  cases given : s.operations with
  | some p =>
    obtain ⟨t, applied, conforms⟩ := heeds.applyOperations (sound.operations p given)
    refine ⟨heeds.room, ?_, ?_, ?_⟩
    · intro t' same
      cases applied.symm.trans same
      exact conforms.proper
    · rintro s' p' ⟨⟩ given'
      cases given.symm.trans given'
      exact ⟨t, applied, conforms⟩
    · rintro s' ⟨⟩ absent
      cases given.symm.trans absent
  | none =>
    have uniform := isUniform_of_isUsable usable given
    obtain ⟨x, selects, keyed⟩ := Stance.hashKey?_applyUniform (a := a) sound uniform
    refine ⟨heeds.room, ?_, ?_, ?_⟩
    · intro t same
      obtain ⟨kind, number, key⟩ := selects.hashKey? sound
      have none : a.applyUniform s = .perOperation t := same
      rw [none, key] at keyed
      cases keyed
    · rintro s' p' ⟨⟩ given'
      cases given.symm.trans given'
    · rintro s' ⟨⟩ -
      exact ⟨x, selects, keyed⟩

private theorem Heeds.next (heeds : Heeds last a) (e : Event) :
    Heeds (lastAfter a.service last e) (a.next e) := by
  cases e with
  | clock now => exact ⟨heeds.room, heeds.proper, heeds.byOperation, heeds.uniform⟩
  | sample operation traceId =>
    unfold Stance.next
    dsimp only
    cases answered : a.delegate.sample a.now operation traceId with
    | error f => exact heeds
    | ok answer => exact heeds.of_sample answered
  | poll q =>
    unfold lastAfter Stance.next
    dsimp only
    cases reply : q.reply a.service with
    | error f => exact heeds
    | ok s =>
      dsimp only
      split
      case isTrue usable => exact heeds.apply (StrategySource.isSound_of_fetch reply) usable
      case isFalse barren =>
        have unusable : s.isUsable = false := Bool.not_eq_true _ ▸ barren
        rw [Stance.heed, Stance.apply_of_not_isUsable unusable]
        exact heeds

end Heeding

private theorem Stance.service_next (a : Stance) (e : Event) : (a.next e).service = a.service := by
  unfold Stance.next
  split
  · split <;> rfl
  · rfl
  · unfold Stance.heed
    split <;> rfl

private theorem Thins.alike {own : Watch} {service : Json} {last : Option Strategy}
    {events fewer : List Event} (thins : Thins service last events fewer) {a : Stance}
    (here : a.service = service) (heeds : Heeds last a) {r r' : RemoteSampler} {h h' : Host}
    (stands : Stands r h a) (stands' : Stands r' h' a) :
    r'.answers own h' fewer = r.answers own h events ∧
      (r'.run own h' fewer).1.delegate = (r.run own h events).1.delegate := by
  induction thins generalizing a r r' h h' with
  | nil last =>
    have same := Stance.mk.inj (stands'.stance.symm.trans stands.stance)
    exact ⟨rfl, same.2.2.2⟩
  | keep e _ ih =>
    have next := heeds.next e
    rw [here] at next
    obtain ⟨answers, delegates⟩ := ih ((a.service_next e).trans here) next
      (stands.next own e) (stands'.next own e)
    refine ⟨?_, delegates⟩
    show (r'.answer? h' e).toList ++ _ = (r.answer? h e).toList ++ _
    rw [stands.answer? stands', answers]
  | @drop last q _ _ redundant _ ih =>
    have next := heeds.next (.poll q)
    have polled := stands.poll own q
    rw [heeds.next_of_redundant (here ▸ redundant)] at next polled
    rw [here] at next
    exact ih here next polled stands'

/-- Polls that fail, bring no strategy, or bring the last strategy once more can be left out of a
run of an open sampler. All questions get the same answers, and the delegate ends the same, with the
same entries and the same credits. -/
theorem answers_of_thins (own : Watch) (r : RemoteSampler) (h : Host)
    (opened : r.control.closed = false) (room : r.HasRoom)
    (proper : ∀ t, r.delegate = .perOperation t → t.IsProper) {events fewer : List Event}
    (thins : Thins r.control.service none events fewer) :
    r.answers own h fewer = r.answers own h events ∧
      (r.run own h fewer).1.delegate = (r.run own h events).1.delegate := by
  have stands : Stands r h ⟨r.control.service, r.control.maxOperations, h.now, r.delegate⟩ :=
    ⟨opened, rfl⟩
  have heeds : Heeds none ⟨r.control.service, r.control.maxOperations, h.now, r.delegate⟩ := by
    refine ⟨room, proper, ?_, ?_⟩
    · intro s p before
      cases before
    · intro s before
      cases before
  exact thins.alike rfl heeds stands stands

/-- The service asks for every second trace. -/
def halving : Poll where
  source := .scripted
    [{ reply := .document
        (.text "\x7b\"probabilisticSampling\": \x7b\"samplingRate\": 0.5\x7d\x7d") }] [] 0
  network := {}
  unclosing := rfl

def silent : Poll := ⟨.scripted [] [] 0, {}, rfl⟩

theorem halved_once :
    (aboutToHalve (.const true)).answers {} {}
        [.poll halving, .sample "home" 7, .sample "home" 8] =
      (aboutToHalve (.const true)).answers {} {}
        [.poll halving, .sample "home" 7, .poll halving, .poll silent, .sample "home" 8] ∧
    ((aboutToHalve (.const true)).run {} {}
        [.poll halving, .sample "home" 7, .sample "home" 8]).1.delegate =
      ((aboutToHalve (.const true)).run {} {}
        [.poll halving, .sample "home" 7, .poll halving, .poll silent,
          .sample "home" 8]).1.delegate := by
  have asked : halving.reply (.text "checkout") = .ok halfOfAll := rfl
  have same : halfOfAll.Same halfOfAll := by
    refine ⟨rfl, .some ?_, .none, .none⟩
    decide +kernel
  have applied : ∀ last, lastAfter (.text "checkout") last (.poll halving) = some halfOfAll :=
    fun _ => rfl
  have ended : Thins (.text "checkout") (some halfOfAll)
      [.poll silent, .sample "home" 8] [.sample "home" 8] :=
    .drop (.failed rfl) (.keep _ (.nil _))
  have repeated : Thins (.text "checkout") (some halfOfAll)
      [.poll halving, .poll silent, .sample "home" 8] [.sample "home" 8] := by
    refine .drop (.repeated rfl asked same) ?_
    rw [applied]
    exact ended
  have thins : Thins (.text "checkout") none
      [.poll halving, .sample "home" 7, .poll halving, .poll silent, .sample "home" 8]
      [.poll halving, .sample "home" 7, .sample "home" 8] := by
    refine .keep _ ?_
    rw [applied]
    exact .keep _ repeated
  have room : (aboutToHalve (.const true)).HasRoom := ⟨.integer 10, rfl, by decide⟩
  have other : ∀ t, (aboutToHalve (.const true)).delegate = .perOperation t → t.IsProper := by
    intro t delegate
    cases delegate
  exact answers_of_thins {} _ {} rfl room other thins

end RemoteSampler

end Tracing
