import Tracing.Proofs.Sampling.Redundancy
/-!
Turns of a remote sampler: questions, polls, delegates handed in and closings, in any order,
whatever its source does meanwhile. What each of them can do is said here, once for all that is
proved of runs of them.
-/

set_option autoImplicit false
set_option relaxedAutoImplicit false

namespace Tracing

namespace Sampler

theorem sampleGiven_remote (control : RemoteControl) (watch : Watch) (d : Sampler)
    (now : Number) (operation traceId : Json) :
    (remote control watch d).sampleGiven now operation traceId =
      ((d.sampleGiven now operation traceId).1,
        remote control watch (d.sampleGiven now operation traceId).2) := by
  have same : (remote control watch d).isByOperation = d.isByOperation := rfl
  unfold sampleGiven
  rw [same]
  split
  · rfl
  · cases traceId.whole with
    | error f => rfl
    | ok id =>
      simp only [sample]
      cases d.sample now operation.plain id <;> rfl

private theorem kind_sample {s s' : Sampler} {now : Number} {operation : String} {traceId : Int}
    {status : SamplingStatus} (h : s.sample now operation traceId = .ok (status, s')) :
    s'.kind = s.kind := by
  cases s with
  | const | probabilistic =>
    cases h
    rfl
  | _ =>
    obtain ⟨answer, -, same⟩ := ok_of_map h
    cases same
    rfl

private theorem kind_sampleUnidentified (s : Sampler) (now : Number) (operation : String) :
    (s.sampleUnidentified now operation).2.kind = s.kind := by
  cases s with
  | rateLimiting t =>
    unfold sampleUnidentified
    split <;> rfl
  | _ => rfl

/-- What a question of any values leaves of a sampler: the sampler itself, or what a question of a
trace, or of one without an identifier, leaves. -/
theorem sampleGiven_cases (s : Sampler) (now : Number) (operation traceId : Json) :
    (s.sampleGiven now operation traceId).2 = s ∨
      (∃ id status, s.sample now operation.plain id =
        .ok (status, (s.sampleGiven now operation traceId).2)) ∨
      (s.sampleGiven now operation traceId).2 = (s.sampleUnidentified now operation.plain).2 := by
  unfold sampleGiven
  split
  · exact .inl rfl
  · dsimp only
    split
    · exact .inr (.inr rfl)
    case h_2 id _ =>
      split
      case h_1 status s' answered => exact .inr (.inl ⟨id, status, answered⟩)
      case h_2 => exact .inl rfl

theorem kind_sampleGiven (s : Sampler) (now : Number) (operation traceId : Json) :
    (s.sampleGiven now operation traceId).2.kind = s.kind := by
  rcases s.sampleGiven_cases now operation traceId with same | ⟨id, status, answered⟩ | same
  · rw [same]
  · exact kind_sample answered
  · rw [same]
    exact kind_sampleUnidentified s now operation.plain

end Sampler

namespace RemoteSampler

/-- What is done to a remote sampler, or happens around it. A delegate that an update or a poll
brings is watched. -/
inductive Turn where
  | sample (operation traceId : Json)
  | update (fresh : Watch)
  | poll (fresh : Watch)
  | replace (watch : Watch) (s : Sampler)
  | close
  | meet (now : Number) (source : StrategySource) (network : Http.Network)

/-- A sampler after something was done to it, its delegate watched if it is another than before. -/
def watching (r : RemoteSampler) (fresh : Watch) (after : RemoteSampler) : RemoteSampler :=
  if after.control.generation = r.control.generation then after else { after with watch := fresh }

def step (own : Watch) (r : RemoteSampler) (h : Host) : Turn → RemoteSampler × Host
  | .sample operation traceId =>
    ((ofSampler? (r.toSampler.sampleGiven h.now operation traceId).2).getD r, h)
  | .update fresh => (r.watching fresh (r.update own h).2.1, (r.update own h).2.2)
  | .poll fresh => (r.watching fresh (r.poll own h).1, (r.poll own h).2)
  | .replace watch s => (r.replace watch s h).2
  | .close => (r.close own h).2
  | .meet now source network =>
    ({ r with control := { r.control with source } }, { h with now, network })

def steps (own : Watch) (r : RemoteSampler) (h : Host) : List Turn → RemoteSampler × Host
  | [] => (r, h)
  | t :: rest => steps own (r.step own h t).1 (r.step own h t).2 rest

variable {own : Watch} {r : RemoteSampler} {h : Host} {s : Strategy}

theorem steps_append (earlier later : List Turn) :
    r.steps own h (earlier ++ later) =
      (r.steps own h earlier).1.steps own (r.steps own h earlier).2 later := by
  induction earlier generalizing r h with
  | nil => rfl
  | cons t rest ih => exact ih

theorem step_sample (operation traceId : Json) :
    r.step own h (.sample operation traceId) =
      ({ r with delegate := (r.delegate.sampleGiven h.now operation traceId).2 }, h) := by
  have asked := Sampler.sampleGiven_remote r.control r.watch r.delegate h.now operation traceId
  simp only [step, toSampler, asked]
  rfl

/-- What a closing does: it fails before it begins, finds the sampler closed, or closes the delegate
and, unless that fails, the source. -/
theorem close_cases (own : Watch) (r : RemoteSampler) (h : Host) :
    (∃ f, own.fault? = some f ∧ r.close own h = (some f, r, own.record h)) ∨
      (own.fault? = none ∧ r.control.closed = true ∧ r.close own h = (none, r, own.record h)) ∨
      own.fault? = none ∧ r.control.closed = false ∧
        ∃ source, r.close own h = ((r.delegate.close r.watch (own.record h)).1,
          ⟨{ r.control with closed := true, pollerCancelled := true, source }, r.watch,
            (r.delegate.close r.watch (own.record h)).2.1⟩,
          (r.delegate.close r.watch (own.record h)).2.2) := by
  obtain ⟨control, watch, delegate⟩ := r
  rw [close, toSampler, Sampler.close]
  dsimp only
  cases fault : own.fault? with
  | some f => exact .inl ⟨f, rfl, rfl⟩
  | none =>
    cases closed : control.closed with
    | true => exact .inr (.inl ⟨rfl, rfl, rfl⟩)
    | false =>
      refine .inr (.inr ⟨rfl, rfl, ?_⟩)
      cases ended : delegate.close watch (own.record h) with
      | mk fault' rest =>
        cases fault' with
        | some f => exact ⟨control.source, rfl⟩
        | none => exact ⟨if control.ownsSource then control.source.close else control.source, rfl⟩

/-- Asking changes the source alone, unless the source closes the sampler first; a closing that
fails is then all there is to hear. -/
theorem ask_cases (own : Watch) (r : RemoteSampler) (h : Host) : ∃ source network,
    (r.control.source.closesFirst = false ∧
      (r.ask own h).2 = ({ r with control := { r.control with source } }, { h with network })) ∨
    r.control.source.closesFirst = true ∧
      (r.ask own h).2 =
        (close own { r with control := { r.control with source } } { h with network }).2 ∧
      ∀ f, (close own { r with control := { r.control with source } } { h with network }).1 =
        some f → (r.ask own h).1 = .error f := by
  refine ⟨(r.control.source.fetch r.control.service h.network).2.1,
    (r.control.source.fetch r.control.service h.network).2.2, ?_⟩
  unfold ask
  dsimp only
  cases r.control.source.closesFirst with
  | false => exact .inl ⟨rfl, rfl⟩
  | true =>
    right
    rw [if_pos rfl]
    cases ended : close own
      { r with control :=
          { r.control with source := (r.control.source.fetch r.control.service h.network).2.1 } }
      { h with network := (r.control.source.fetch r.control.service h.network).2.2 } with
    | mk fault rest =>
      cases fault with
      | none => exact ⟨rfl, rfl, fun f failed => by cases failed⟩
      | some f => exact ⟨rfl, rfl, fun f' failed => by cases failed; rfl⟩

/-- A source whose strategy finds the sampler open has not closed it. -/
theorem ask_of_still_open (given : (r.ask own h).1 = .ok s)
    (opened : (r.ask own h).2.1.control.closed = false) : ∃ source network, r.ask own h =
      (.ok s, { r with control := { r.control with source } }, { h with network }) := by
  obtain ⟨source, network, ⟨-, asked⟩ | ⟨-, asked, failed⟩⟩ := ask_cases own r h
  · exact ⟨source, network, Prod.ext given asked⟩
  · cases ended : (close own { r with control := { r.control with source } }
        { h with network }).1 with
    | some f =>
      rw [failed f ended] at given
      cases given
    | none =>
      rw [congrArg Prod.fst asked, closed_of_close ended] at opened
      cases opened

/-- What holds whatever the source has become, and still after a closing, holds once the source is
asked. -/
theorem of_ask {P : RemoteSampler → Host → Prop} (own : Watch) (r : RemoteSampler) (h : Host)
    (met : ∀ source network, P { r with control := { r.control with source } } { h with network })
    (closes : ∀ r' h', P r' h' → P (r'.close own h').2.1 (r'.close own h').2.2) :
    P (r.ask own h).2.1 (r.ask own h).2.2 := by
  obtain ⟨source, network, ⟨-, asked⟩ | ⟨-, asked, -⟩⟩ := ask_cases own r h
  · rw [asked]
    exact met source network
  · rw [asked]
    exact closes _ _ (met source network)

/-- What a closing or a question to the source leaves of the control. -/
structure KeepsFrame (r r' : RemoteSampler) : Prop where
  generation : r'.control.generation = r.control.generation
  metered : r'.control.metered = r.control.metered
  maxOperations : r'.control.maxOperations = r.control.maxOperations
  watch : r'.watch = r.watch

private theorem KeepsFrame.trans {r' r'' : RemoteSampler} (first : KeepsFrame r r')
    (second : KeepsFrame r' r'') : KeepsFrame r r'' where
  generation := second.generation.trans first.generation
  metered := second.metered.trans first.metered
  maxOperations := second.maxOperations.trans first.maxOperations
  watch := second.watch.trans first.watch

theorem keepsFrame_close (own : Watch) (r : RemoteSampler) (h : Host) :
    KeepsFrame r (r.close own h).2.1 := by
  rcases close_cases own r h with ⟨f, -, same⟩ | ⟨-, -, same⟩ | ⟨-, -, source, same⟩
  all_goals
    rw [same]
    exact ⟨rfl, rfl, rfl, rfl⟩

theorem keepsFrame_ask (own : Watch) (r : RemoteSampler) (h : Host) :
    KeepsFrame r (r.ask own h).2.1 := by
  refine of_ask (P := fun r' _ => KeepsFrame r r') own r h ?_ ?_
  · exact fun _ _ => ⟨rfl, rfl, rfl, rfl⟩
  · exact fun r' h' kept => kept.trans (keepsFrame_close own r' h')

/-- What applying a strategy can do. -/
inductive Applies (r : RemoteSampler) (s : Strategy) (h : Host) :
    Option Fault × RemoteSampler × Host → Prop
  /-- The strategy says nothing. -/
  | barren : s.operations = none → ¬ s.IsUniform →
      Applies r s h (none, r,
        (h.count r.control.metered .samplerParsingFailure 1).log (.noStrategy r.control.service))
  /-- The delegate is one that the strategy asks for. -/
  | inForce {x : Sampler} : s.operations = none → s.Selects x → (x == r.delegate) = true →
      Applies r s h (none, r, h)
  /-- A delegate for all operations alike takes over. -/
  | uniform {x : Sampler} : s.operations = none → s.Selects x →
      s.sampler? h.now = .ok (some x) → (x == r.delegate) = false →
      Applies r s h (r.replace {} x h)
  /-- A new table takes over. -/
  | table {p : OperationParameters} {n : Number} {t : OperationTable} {notices : List Notice} :
      s.operations = some p → (∀ t', r.delegate ≠ .perOperation t') →
      r.control.maxOperations.number = .ok n → (OperationTable.create n p h.now).1 = .ok t →
      Applies r s h (r.replace {} (.perOperation t) { h with notices })
  /-- No table can be made for the number of operations there is to be. -/
  | unbuilt {p : OperationParameters} {f : Fault} {notices : List Notice} :
      s.operations = some p → (∀ t', r.delegate ≠ .perOperation t') →
      (∀ n, r.control.maxOperations.number = .ok n → n.le (.integer 0) = true) →
      Applies r s h (some f, r, { h with notices })
  /-- The table has the numbers already. -/
  | kept {p : OperationParameters} {t t' : OperationTable} {notices notices' : List Notice} :
      s.operations = some p → r.delegate = .perOperation t →
      t.update p h.now = ⟨.ok false, t', notices⟩ →
      Applies r s h (none, { r with delegate := .perOperation t' }, { h with notices := notices' })
  /-- The table gets the numbers. -/
  | revised {p : OperationParameters} {t t' : OperationTable} {notices notices' : List Notice} :
      s.operations = some p → r.delegate = .perOperation t →
      t.update p h.now = ⟨.ok true, t', notices⟩ →
      Applies r s h (none, { r with delegate := .perOperation t' },
        (Host.count { h with notices := notices' } r.control.metered .samplerUpdated 1).log
          (.operationsUpdated r.control.service t'.description))

private theorem applies_operations {p : OperationParameters} (given : s.operations = some p)
    (sound : p.IsSound) : Applies r s h (r.applyOperations p h) := by
  unfold applyOperations
  split
  case h_1 t before =>
    obtain ⟨changed, t', notices, updated, -⟩ :=
      OperationTable.follows_of_update t sound h.now
    dsimp only
    rw [updated]
    cases changed with
    | false => exact .kept given before updated
    | true => exact .revised given before updated
  case h_2 other =>
    cases number : r.control.maxOperations.number with
    | error f =>
      have none : ∀ n, r.control.maxOperations.number = .ok n → n.le (.integer 0) = true := by
        intro n there
        cases number.symm.trans there
      show Applies r s h (some f, r, { h with notices := h.notices })
      exact .unbuilt given other none
    | ok n =>
      dsimp only
      cases made : (OperationTable.create n p h.now).1 with
      | ok t =>
        exact .table given other number made
      | error f =>
        refine .unbuilt given other fun m there => ?_
        cases number.symm.trans there
        by_contra enough
        have shared := Rate.create_of_isShare sound.rate
        obtain ⟨changed, t', notices, updated, -⟩ := OperationTable.follows_of_update
          ⟨n, ⟨p.defaultRate, sound.rate⟩, p.defaultLowerBound, []⟩ sound h.now
        simp [OperationTable.create, enough, shared, updated, Except.map] at made

theorem applies_of_isSound (sound : s.IsSound) (r : RemoteSampler) (h : Host) :
    Applies r s h (r.apply s h) := by
  unfold apply
  cases given : s.operations with
  | some p => exact applies_operations given (sound.operations p given)
  | none =>
    unfold applyUniform
    dsimp only
    by_cases uniform : s.IsUniform
    · obtain ⟨x, asked, selects⟩ := Strategy.selects_of_sampler? sound uniform h.now
      rw [asked]
      dsimp only
      cases same : x == r.delegate with
      | true => exact .inForce given selects same
      | false => exact .uniform given selects asked same
    · rw [Strategy.sampler?_of_not_isUniform uniform h.now]
      exact .barren given uniform

theorem update_of_late {r' : RemoteSampler} {h' : Host}
    (asked : r.ask own h = (.ok s, r', h')) (closed : r'.control.closed = true) :
    r.update own h = (none, r', h'.count r'.control.metered .samplerRetrieved 1) := by
  unfold update fetch
  rw [asked]
  dsimp only [heed]
  rw [closed]
  rfl

/-- What a poll does: it hears that there is no strategy, it finds the sampler closed when one
comes, or it applies one. -/
theorem update_cases (own : Watch) (r : RemoteSampler) (h : Host) :
    (∃ f, (r.ask own h).1 = .error f ∧ r.update own h =
        (none, (r.ask own h).2.1, ((r.ask own h).2.1.heed (.error f) (r.ask own h).2.2).2)) ∨
      (∃ s, (r.ask own h).1 = .ok s ∧ (r.ask own h).2.1.control.closed = true ∧ r.update own h =
        (none, (r.ask own h).2.1,
          (r.ask own h).2.2.count (r.ask own h).2.1.control.metered .samplerRetrieved 1)) ∨
      r.control.closed = false ∧ ∃ s source network,
        r.ask own h =
          (.ok s, { r with control := { r.control with source } }, { h with network }) ∧
        s.IsSound ∧ Applies { r with control := { r.control with source } } s
          (Host.count { h with network } r.control.metered .samplerRetrieved 1)
          (r.update own h) := by
  cases reply : (r.ask own h).1 with
  | error f => exact .inl ⟨f, rfl, update_of_refused (Prod.ext reply rfl)⟩
  | ok s =>
    cases closed : (r.ask own h).2.1.control.closed with
    | true => exact .inr (.inl ⟨s, rfl, rfl, update_of_late (Prod.ext reply rfl) closed⟩)
    | false =>
      have sound := (ask_of_open reply closed).1
      obtain ⟨source, network, asked⟩ := ask_of_still_open reply closed
      rw [asked] at closed
      refine .inr (.inr ⟨closed, s, source, network, asked, sound, ?_⟩)
      rw [update_of_asked asked closed]
      exact applies_of_isSound sound _ _

theorem poll_eq (own : Watch) (r : RemoteSampler) (h : Host) :
    ∃ notices, r.poll own h = ((r.update own h).2.1, { (r.update own h).2.2 with notices }) := by
  unfold poll
  split
  case h_1 quiet => exact ⟨_, by rw [quiet]⟩
  case h_2 f failed => exact ⟨_, by rw [failed]; rfl⟩

end RemoteSampler

end Tracing
