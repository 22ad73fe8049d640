import Tracing.Proofs.Pipeline.Instruments
import Tracing.Proofs.Sampling.Turns
/-!
The delegates of a remote sampler, one after the other. Each is closed once, when another takes over
or the sampler is closed, and a closed sampler keeps the delegate it has.
-/

set_option autoImplicit false
set_option relaxedAutoImplicit false

namespace Tracing

@[simp] theorem Host.closings_log (h : Host) (n : Notice) : (h.log n).closings = h.closings := rfl

@[simp] theorem Host.closings_count (h : Host) (metered : Bool) (i : Metrics.Instrument) (n : Nat) :
    (h.count metered i n).closings = h.closings := by
  cases metered <;> rfl

private theorem Watch.closings_record (w : Watch) (h : Host) :
    (w.record h).closings = h.closings ++ w.label.toList := by
  unfold record
  cases w.label <;> simp

namespace Sampler

def inner : Sampler → List String
  | remote _ watch delegate => watch.label.toList ++ delegate.inner
  | _ => []

@[simp] theorem inner_close (watch : Watch) (h : Host) (s : Sampler) :
    (s.close watch h).2.1.inner = s.inner := by
  induction s generalizing watch h with
  | remote control delegateWatch delegate ih =>
    rw [close]
    dsimp only
    split
    · rfl
    · split
      · rfl
      · split <;> simp [inner, ih]
  | _ => rfl

private theorem closings_close (watch : Watch) (h : Host) (s : Sampler) : ∃ rest,
    (s.close watch h).2.2.closings = h.closings ++ (watch.label.toList ++ rest) ∧
      rest ⊆ s.inner := by
  have recorded := Watch.closings_record watch h
  have alone : ∃ rest : List String,
      (watch.record h).closings = h.closings ++ (watch.label.toList ++ rest) ∧ rest ⊆ s.inner :=
    ⟨[], by simp [recorded], List.nil_subset _⟩
  induction s generalizing watch h with
  | remote control delegateWatch delegate ih =>
    rw [close]
    dsimp only
    split
    · exact alone
    · split
      · exact alone
      · have nested : ∃ rest : List String, (delegateWatch.record (watch.record h)).closings =
            (watch.record h).closings ++ (delegateWatch.label.toList ++ rest) ∧
              rest ⊆ delegate.inner :=
          ⟨[], by simp [Watch.closings_record], List.nil_subset _⟩
        obtain ⟨rest, same, within⟩ :=
          ih delegateWatch (watch.record h) (Watch.closings_record _ _) nested
        refine ⟨delegateWatch.label.toList ++ rest, ?_,
          List.append_subset.mpr ⟨List.subset_append_left _ _,
            fun _ m => List.mem_append_right _ (within m)⟩⟩
        split <;> simp [same, recorded]
  | _ => exact alone

private theorem inner_of_kind {s : Sampler} (other : s.kind ≠ .remote) : s.inner = [] := by
  cases s with
  | remote => exact absurd rfl other
  | _ => rfl

@[simp] theorem inner_sampleGiven (s : Sampler) (now : Number) (operation traceId : Json) :
    (s.sampleGiven now operation traceId).2.inner = s.inner := by
  have kept := kind_sampleGiven s now operation traceId
  induction s with
  | remote control watch delegate ih =>
    rw [sampleGiven_remote, inner, inner, ih (kind_sampleGiven delegate now operation traceId)]
  | _ =>
    refine inner_of_kind fun same => ?_
    rw [kept] at same
    cases same

end Sampler

namespace RemoteSampler

def Turn.offered : Turn → List String
  | .update fresh | .poll fresh => fresh.label.toList
  | .replace watch _ => watch.label.toList
  | _ => []

/-- The labels of the samplers within those that a turn hands in. -/
def Turn.inside : Turn → List String
  | .replace _ s => s.inner
  | _ => []

/-- How often a sampler of a label is still to be closed: once, if it is the delegate of an open
sampler. -/
def owed (label : String) (r : RemoteSampler) : Nat :=
  if r.control.closed = false ∧ r.watch.label = some label then 1 else 0

/-- What becomes of the delegates while samplers of some labels are handed in. Every sampler is
closed as often as it was handed in, but for the one that is in force and open. A closed sampler
stays closed, and stays with its delegate. -/
structure Succession (handed inside : List String) (r : RemoteSampler) (h : Host)
    (r' : RemoteSampler) (h' : Host) : Prop where
  closings : ∀ label, label ∉ r.delegate.inner → label ∉ inside →
    h'.closings.count label + owed label r' =
      h.closings.count label + owed label r + handed.count label
  inner : r'.delegate.inner ⊆ r.delegate.inner ++ inside
  succeeded : (r'.control.generation = r.control.generation ∧ r'.watch = r.watch) ∨
    r.control.generation < r'.control.generation ∧
      ∀ label, r'.watch.label = some label → label ∈ handed
  final : r.control.closed = true → r'.control.closed = true ∧
    r'.control.generation = r.control.generation ∧ r'.watch = r.watch ∧
    h'.tally.get .samplerUpdated = h.tally.get .samplerUpdated

namespace Succession

variable {handed handed' inside inside' : List String}
variable {r r' r'' : RemoteSampler} {h h' h'' : Host}

theorem trans (first : Succession handed inside r h r' h')
    (second : Succession handed' inside' r' h' r'' h'') :
    Succession (handed ++ handed') (inside ++ inside') r h r'' h'' := by
  constructor
  · intro label apart outside
    rw [List.mem_append, not_or] at outside
    have apart' : label ∉ r'.delegate.inner := by
      intro m
      rcases List.mem_append.mp (first.inner m) with m | m
      · exact apart m
      · exact outside.1 m
    have earlier := first.closings label apart outside.1
    have later := second.closings label apart' outside.2
    rw [List.count_append]
    omega
  · intro label m
    rcases List.mem_append.mp (second.inner m) with m | m
    · rw [← List.append_assoc]
      exact List.mem_append_left _ (first.inner m)
    · rw [← List.append_assoc]
      exact List.mem_append_right _ m
  · rcases first.succeeded with ⟨still, kept⟩ | ⟨later, given⟩
    · rcases second.succeeded with ⟨still', kept'⟩ | ⟨later', given'⟩
      · exact .inl ⟨still'.trans still, kept'.trans kept⟩
      · refine .inr ⟨still ▸ later', fun label there => ?_⟩
        exact List.mem_append_right _ (given' label there)
    · rcases second.succeeded with ⟨still', kept'⟩ | ⟨later', given'⟩
      · refine .inr ⟨still' ▸ later, fun label there => ?_⟩
        rw [kept'] at there
        exact List.mem_append_left _ (given label there)
      · refine .inr ⟨later.trans later', fun label there => ?_⟩
        exact List.mem_append_right _ (given' label there)
  · intro closed
    obtain ⟨closed', still, kept, counted⟩ := first.final closed
    obtain ⟨closed'', still', kept', counted'⟩ := second.final closed'
    exact ⟨closed'', still'.trans still, kept'.trans kept, counted'.trans counted⟩

private theorem of_kept (closed : r'.control.closed = r.control.closed)
    (still : r'.control.generation = r.control.generation) (kept : r'.watch = r.watch)
    (inner : r'.delegate.inner ⊆ r.delegate.inner) (closings : h'.closings = h.closings)
    (counted : r.control.closed = true →
      h'.tally.get .samplerUpdated = h.tally.get .samplerUpdated) :
    Succession [] [] r h r' h' := by
  constructor
  · intro label _ _
    have same : owed label r' = owed label r := by
      unfold owed
      rw [closed, kept]
    rw [closings, same, List.count_nil, Nat.add_zero]
  · rw [List.append_nil]
    exact inner
  · exact .inl ⟨still, kept⟩
  · intro shut
    exact ⟨closed.trans shut, still, kept, counted shut⟩

/-- A sampler in force was the delegate from the start or was handed in. -/
theorem handed_of_inForce {label : String} (succession : Succession handed inside r h r' h')
    (there : r'.watch.label = some label) :
    1 ≤ r.watch.label.toList.count label + handed.count label := by
  rcases succession.succeeded with ⟨-, kept⟩ | ⟨-, given⟩
  · rw [kept] at there
    rw [there]
    simp
  · have taken : 0 < handed.count label := List.count_pos_iff.mpr (given label there)
    omega

end Succession

private theorem count_close {label : String} {s : Sampler} (apart : label ∉ s.inner) (watch : Watch)
    (h : Host) : (s.close watch h).2.2.closings.count label =
      h.closings.count label + watch.label.toList.count label := by
  obtain ⟨rest, same, within⟩ := s.closings_close watch h
  have none : rest.count label = 0 := List.count_eq_zero.mpr fun m => apart (within m)
  rw [same, List.count_append, List.count_append, none, Nat.add_zero]

theorem owed_of_open {label : String} {r : RemoteSampler} (opened : r.control.closed = false) :
    owed label r = r.watch.label.toList.count label := by
  unfold owed
  cases there : r.watch.label with
  | none => simp
  | some own =>
    by_cases same : own = label
    · simp [opened, same]
    · simp [same]

theorem owed_of_closed {label : String} {r : RemoteSampler} (closed : r.control.closed = true) :
    owed label r = 0 := by
  simp [owed, closed]

/-- A delegate that is not handed in again is owed a closing for as long as it is in force and the
remote sampler is open. -/
private theorem Succession.owed_of_unhanded {handed inside : List String} {r r' : RemoteSampler}
    {h h' : Host} {label : String} (succession : Succession handed inside r h r' h')
    (there : r.watch.label = some label) (unhanded : handed.count label = 0) :
    owed label r' = if r'.control.closed = false ∧
      r'.control.generation = r.control.generation then 1 else 0 := by
  rcases succession.succeeded with ⟨still, kept⟩ | ⟨later, given⟩
  · simp [owed, kept, there, still]
  · have other : r'.watch.label ≠ some label := fun same =>
      List.count_eq_zero.mp unhanded (given label same)
    have moved : r'.control.generation ≠ r.control.generation := later.ne'
    simp [owed, other, moved]

section Steps

variable {r : RemoteSampler} {h : Host} {watch : Watch} {s : Sampler}

private theorem succession_close (r : RemoteSampler) (h : Host) :
    Succession [] [] r h (r.close {} h).2.1 (r.close {} h).2.2 := by
  rcases close_cases {} r h with ⟨f, failed, -⟩ | ⟨-, -, same⟩ | ⟨-, opened, source, done⟩
  · cases failed
  · rw [same]
    exact .of_kept rfl rfl rfl (List.Subset.refl _) rfl fun _ => rfl
  · rw [done]
    constructor
    · intro label apart _
      have counted : ((r.delegate.close r.watch (Watch.record {} h)).2.2.closings).count label =
          h.closings.count label + r.watch.label.toList.count label :=
        count_close apart r.watch h
      rw [owed_of_open opened, owed_of_closed rfl, List.count_nil, counted]
    · simp
    · exact .inl ⟨rfl, rfl⟩
    · intro closed
      rw [opened] at closed
      cases closed

/-- A sampler that is handed in takes over, and the delegate before it is closed; or it is closed
itself, if the remote sampler is. -/
private theorem succession_replace (r : RemoteSampler) (h : Host) (watch : Watch) (s : Sampler) :
    Succession watch.label.toList s.inner r h (r.replace watch s h).2.1
      (r.replace watch s h).2.2 := by
  unfold replace
  cases closed : r.control.closed with
  | true =>
    rw [if_pos rfl]
    constructor
    · intro label _ outside
      have counted := count_close outside watch h
      rw [owed_of_closed closed]
      dsimp only
      omega
    · exact List.subset_append_left _ _
    · exact .inl ⟨rfl, rfl⟩
    · intro _
      exact ⟨closed, rfl, rfl, by simp⟩
  | false =>
    rw [if_neg Bool.false_ne_true]
    constructor
    · intro label apart _
      have counted := count_close apart r.watch
        ((h.count r.control.metered .samplerUpdated 1).log
          (.samplerReplaced r.control.service r.delegate.description s.description))
      rw [Host.closings_log, Host.closings_count] at counted
      have opened : owed label r = r.watch.label.toList.count label := owed_of_open closed
      have owes : owed label
          ⟨{ r.control with generation := r.control.generation + 1 }, watch, s⟩ =
            watch.label.toList.count label := owed_of_open closed
      dsimp only
      rw [counted, opened, owes]
    · exact List.subset_append_right _ _
    · refine .inr ⟨Nat.lt_succ_self _, fun label there => ?_⟩
      exact Option.mem_toList.mpr there
    · intro shut
      rw [closed] at shut
      cases shut

private theorem succession_ask (r : RemoteSampler) (h : Host) :
    Succession [] [] r h (r.ask {} h).2.1 (r.ask {} h).2.2 := by
  refine of_ask (P := Succession [] [] r h) {} r h ?_ ?_
  · exact fun _ _ => .of_kept rfl rfl rfl (List.Subset.refl _) rfl fun _ => rfl
  · exact fun r' h' before => before.trans (succession_close r' h')

private theorem watching_replace (opened : r.control.closed = false) (fresh : Watch) (s : Sampler)
    (h : Host) : (r.watching fresh (r.replace {} s h).2.1, (r.replace {} s h).2.2) =
      (r.replace fresh s h).2 := by
  have later : r.control.generation + 1 ≠ r.control.generation := Nat.succ_ne_self _
  unfold watching replace
  rw [opened, if_neg Bool.false_ne_true, if_neg Bool.false_ne_true, if_neg later]

private theorem watching_of_kept {r' : RemoteSampler}
    (still : r'.control.generation = r.control.generation) (fresh : Watch) :
    r.watching fresh r' = r' :=
  if_pos still

private theorem inner_of_selects {s : Strategy} {x : Sampler} (selects : s.Selects x) : x.inner =
    [] := by
  cases selects with
  | limited | shared | unshared => rfl

private theorem succession_applies {s : Strategy} {result : Option Fault × RemoteSampler × Host}
    (opened : r.control.closed = false) (applies : Applies r s h result) (fresh : Watch) :
    ∃ handed, handed.Sublist fresh.label.toList ∧
      Succession handed [] r h (r.watching fresh result.2.1) result.2.2 := by
  have stays : ∀ {r' : RemoteSampler} {h' : Host}, r'.control = r.control → r'.watch = r.watch →
      r'.delegate.inner ⊆ r.delegate.inner → h'.closings = h.closings →
      ∃ handed, handed.Sublist fresh.label.toList ∧
        Succession handed [] r h (r.watching fresh r') h' := by
    intro r' h' control watch inner closings
    have still : r'.control.generation = r.control.generation := by rw [control]
    refine ⟨[], List.nil_sublist _, ?_⟩
    rw [watching_of_kept still]
    refine .of_kept (by rw [control]) still watch inner closings fun shut => ?_
    rw [opened] at shut
    cases shut
  have takes : ∀ (x : Sampler) (k : Host), k.closings = h.closings →
      k.tally = h.tally → x.inner = [] → ∃ handed, handed.Sublist fresh.label.toList ∧
        Succession handed [] r h (r.watching fresh (r.replace {} x k).2.1)
          (r.replace {} x k).2.2 := by
    intro x k closings counted none
    have noted : Succession [] [] r h r k := by
      refine .of_kept rfl rfl rfl (List.Subset.refl _) closings fun _ => ?_
      rw [counted]
    have taken := noted.trans (succession_replace r k fresh x)
    rw [none] at taken
    rw [← watching_replace opened] at taken
    exact ⟨fresh.label.toList, List.Sublist.refl _, taken⟩
  cases applies with
  | barren => exact stays rfl rfl (List.Subset.refl _) (by simp)
  | inForce => exact stays rfl rfl (List.Subset.refl _) rfl
  | unbuilt => exact stays rfl rfl (List.Subset.refl _) rfl
  | uniform absent selects asked differ => exact takes _ _ rfl rfl (inner_of_selects selects)
  | table given other number made => exact takes _ _ rfl rfl rfl
  | kept given before updated => exact stays rfl rfl (List.nil_subset _) rfl
  | revised given before updated => exact stays rfl rfl (List.nil_subset _) (by simp)

private theorem succession_update (r : RemoteSampler) (h : Host) (fresh : Watch) :
    ∃ handed, handed.Sublist fresh.label.toList ∧
      Succession handed [] r h (r.watching fresh (r.update {} h).2.1) (r.update {} h).2.2 := by
  have asked := succession_ask r h
  have frame := (keepsFrame_ask {} r h).generation
  rcases update_cases {} r h with ⟨f, -, done⟩ | ⟨s, -, -, done⟩ |
    ⟨opened, s, source, network, -, -, applies⟩
  · rw [done]
    refine ⟨[], List.nil_sublist _, ?_⟩
    rw [watching_of_kept frame]
    exact asked.trans (.of_kept rfl rfl rfl (List.Subset.refl _) (by simp [heed])
      fun _ => by simp [heed])
  · rw [done]
    refine ⟨[], List.nil_sublist _, ?_⟩
    rw [watching_of_kept frame]
    exact asked.trans (.of_kept rfl rfl rfl (List.Subset.refl _) (by simp) fun _ => by simp)
  · obtain ⟨handed, among, applied⟩ := succession_applies
      (r := { r with control := { r.control with source } }) opened applies fresh
    have met : Succession [] [] r h { r with control := { r.control with source } }
        (Host.count { h with network } r.control.metered .samplerRetrieved 1) :=
      .of_kept rfl rfl rfl (List.Subset.refl _) (by simp) fun _ => by simp
    exact ⟨handed, among, met.trans applied⟩

private theorem succession_step (r : RemoteSampler) (h : Host) (t : Turn) :
    ∃ handed, handed.Sublist t.offered ∧
      Succession handed t.inside r h (r.step {} h t).1 (r.step {} h t).2 := by
  cases t with
  | sample operation traceId =>
    refine ⟨[], List.nil_sublist _, ?_⟩
    rw [step_sample]
    refine .of_kept rfl rfl rfl ?_ rfl fun _ => rfl
    rw [Sampler.inner_sampleGiven]
    exact List.Subset.refl _
  | update fresh => exact succession_update r h fresh
  | poll fresh =>
    obtain ⟨handed, among, updated⟩ := succession_update r h fresh
    obtain ⟨notices, polled⟩ := poll_eq {} r h
    refine ⟨handed, among, ?_⟩
    unfold step
    rw [polled]
    exact ⟨updated.closings, updated.inner, updated.succeeded, updated.final⟩
  | replace watch s => exact ⟨_, List.Sublist.refl _, succession_replace r h watch s⟩
  | close => exact ⟨[], List.nil_sublist _, succession_close r h⟩
  | meet now source network =>
    exact ⟨[], List.nil_sublist _,
      .of_kept rfl rfl rfl (List.Subset.refl _) rfl fun _ => rfl⟩

theorem succession_steps (r : RemoteSampler) (h : Host) (turns : List Turn) :
    ∃ handed, handed.Sublist (turns.flatMap Turn.offered) ∧
      Succession handed (turns.flatMap Turn.inside) r h (r.steps {} h turns).1
        (r.steps {} h turns).2 := by
  induction turns generalizing r h with
  | nil =>
    exact ⟨[], List.nil_sublist _, .of_kept rfl rfl rfl (List.Subset.refl _) rfl fun _ => rfl⟩
  | cons t rest ih =>
    obtain ⟨handed, among, first⟩ := succession_step r h t
    obtain ⟨handed', among', later⟩ := ih (r.step {} h t).1 (r.step {} h t).2
    exact ⟨handed ++ handed', among.append among', first.trans later⟩

private theorem succession_replace_steps (r : RemoteSampler) (h : Host) (watch : Watch)
    (s : Sampler)
    (rest : List Turn) : ∃ handed, handed.Sublist (rest.flatMap Turn.offered) ∧
      Succession (watch.label.toList ++ handed) (s.inner ++ rest.flatMap Turn.inside) r h
        (r.steps {} h (.replace watch s :: rest)).1
        (r.steps {} h (.replace watch s :: rest)).2 := by
  have first := succession_replace r h watch s
  obtain ⟨handed, among, later⟩ :=
    succession_steps (r.replace watch s h).2.1 (r.replace watch s h).2.2 rest
  exact ⟨handed, among, first.trans later⟩

end Steps

/-- What a run makes of a sampler that goes by a label. In force after some turns, it has been
closed once by the end if another has taken over or the remote sampler is closed, and has not been
closed otherwise. Once closed, the remote sampler stays so and keeps its delegate, and a sampler
handed to it then is closed once and does not take over. -/
structure ClosesOnce (label : String) (r : RemoteSampler) (h : Host) (earlier later : List Turn) :
    Prop where
  inForce : (r.steps {} h earlier).1.watch.label = some label →
    (r.steps {} h (earlier ++ later)).2.closings.count label = h.closings.count label +
      if (r.steps {} h (earlier ++ later)).1.control.closed = false ∧
        (r.steps {} h (earlier ++ later)).1.control.generation =
          (r.steps {} h earlier).1.control.generation
      then 0 else 1
  final : (r.steps {} h earlier).1.control.closed = true →
    (r.steps {} h (earlier ++ later)).1.control.closed = true ∧
      (r.steps {} h (earlier ++ later)).1.control.generation =
        (r.steps {} h earlier).1.control.generation ∧
      (r.steps {} h (earlier ++ later)).1.watch = (r.steps {} h earlier).1.watch ∧
      (r.steps {} h (earlier ++ later)).2.tally.get .samplerUpdated =
        (r.steps {} h earlier).2.tally.get .samplerUpdated
  turnedAway : (r.steps {} h earlier).1.control.closed = true → ∀ watch s rest,
    later = .replace watch s :: rest → watch.label = some label →
      (r.steps {} h (earlier ++ later)).2.closings.count label = h.closings.count label + 1 ∧
        (r.steps {} h (earlier ++ later)).1.watch.label ≠ some label

/-- Whatever is done to a remote sampler, its source and the delegates that fail to close included,
every sampler that goes by a label of its own is closed once. -/
theorem closesOnce_of_single (r : RemoteSampler) (h : Host) (opened : r.control.closed = false)
    (earlier later : List Turn) (label : String)
    (single : (r.watch.label.toList ++ (earlier ++ later).flatMap Turn.offered).count label ≤ 1)
    (apart : label ∉ r.delegate.inner ++ (earlier ++ later).flatMap Turn.inside) :
    ClosesOnce label r h earlier later := by
  obtain ⟨handed, among, first⟩ := succession_steps r h earlier
  obtain ⟨handed', among', second⟩ :=
    succession_steps (r.steps {} h earlier).1 (r.steps {} h earlier).2 later
  have fewer := among.count_le label
  have fewer' := among'.count_le label
  have owes : owed label r = r.watch.label.toList.count label := owed_of_open opened
  rw [List.flatMap_append, List.count_append, List.count_append] at single
  rw [List.mem_append, not_or, List.flatMap_append] at apart
  have counted := (first.trans second).closings label apart.1 apart.2
  rw [List.count_append] at counted
  refine ⟨fun there => ?_, fun shut => ?_, ?_⟩
  · rw [steps_append]
    have held := first.handed_of_inForce there
    -- It has its one place in the count already, so no later turn can have handed it in.
    have unhanded : handed'.count label = 0 := by omega
    rw [second.owed_of_unhanded there unhanded] at counted
    split at counted
    case isTrue still =>
      rw [if_pos still]
      omega
    case isFalse gone =>
      rw [if_neg gone]
      omega
  · rw [steps_append]
    exact second.final shut
  · rintro shut watch s rest rfl there
    rw [steps_append]
    obtain ⟨handed'', among'', third⟩ := succession_replace_steps
      (r.steps {} h earlier).1 (r.steps {} h earlier).2 watch s rest
    obtain ⟨shut', -, kept, -⟩ := third.final shut
    have counted' := (first.trans third).closings label apart.1 apart.2
    have fewer'' := among''.count_le label
    have offers : (Turn.replace watch s).offered.count label = 1 := by simp [Turn.offered, there]
    have once : watch.label.toList.count label = 1 := offers
    rw [List.flatMap_cons, List.count_append] at single
    rw [List.count_append, List.count_append, owed_of_closed shut'] at counted'
    constructor
    · omega
    · intro inForce
      rw [kept] at inForce
      have held := first.handed_of_inForce inForce
      omega

/-- A sampler that is hard to close, and a source that asks for every second trace. -/
def stuckAtFirst : RemoteSampler :=
  { aboutToHalve (.const true) with watch := ⟨some "first", some "stuck"⟩ }

theorem first_and_third_closed_once :
    let turns : List Turn := [.update ⟨some "second", none⟩, .close,
      .replace ⟨some "third", none⟩ (.const false), .close]
    ClosesOnce "first" stuckAtFirst {} [] turns ∧
      ClosesOnce "third" stuckAtFirst {} (turns.take 2) (turns.drop 2) ∧
      (stuckAtFirst.steps {} {} turns).2.closings = ["first", "second", "third"] := by
  have first := closesOnce_of_single stuckAtFirst {} rfl [] [.update ⟨some "second", none⟩, .close,
    .replace ⟨some "third", none⟩ (.const false), .close] "first" (by decide) (by decide)
  have third := closesOnce_of_single stuckAtFirst {} rfl [.update ⟨some "second", none⟩, .close]
    [.replace ⟨some "third", none⟩ (.const false), .close] "third" (by decide) (by decide)
  exact ⟨first, third, rfl⟩

end RemoteSampler

end Tracing
