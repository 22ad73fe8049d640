import Tracing.Proofs.Sampling.Cycle
import Tracing.Proofs.Sampling.Succession
/-!
What a remote sampler lets go of. The first closing cancels the poller and closes the delegate in
force; the source that belongs to the sampler is closed then or never, and is so exactly if the
delegate does not fail to close.
-/

set_option autoImplicit false
set_option relaxedAutoImplicit false

namespace Tracing

namespace StrategySource

/-- A source but for the replies it has left and the questions it has heard. Nothing but a closing
changes what remains. -/
def lasting : StrategySource → StrategySource
  | .scripted _ _ closed => .scripted [] [] closed
  | .agent a => .agent a

private theorem lasting_fetch (source : StrategySource) (service : Json) (net : Http.Network) :
    (source.fetch service net).2.1.lasting = source.lasting := by
  cases source with
  | agent => rfl
  | scripted answers asked closed =>
    unfold fetch
    dsimp only
    cases Http.takeNext answers <;> rfl

private theorem lasting_close (source : StrategySource) :
    source.close.lasting = source.lasting.close := by
  cases source <;> rfl

end StrategySource

namespace RemoteSampler

def closingFault? (r : RemoteSampler) : Option Fault := (r.delegate.close r.watch {}).1

/-- What a closing makes of the source: it is closed too if it belongs to the sampler and the
delegate does not fail to close. -/
def released (r : RemoteSampler) : StrategySource :=
  if r.control.ownsSource && r.closingFault?.isNone then r.control.source.lasting.close
  else r.control.source.lasting

/-- Nothing is let go of. -/
structure Holds (r r' : RemoteSampler) : Prop where
  closed : r'.control.closed = r.control.closed
  cancelled : r'.control.pollerCancelled = r.control.pollerCancelled
  owns : r'.control.ownsSource = r.control.ownsSource
  source : r'.control.source.lasting = r.control.source.lasting

/-- An open sampler is closed. -/
structure Releases (r r' : RemoteSampler) : Prop where
  opened : r.control.closed = false
  closed : r'.control.closed = true
  cancelled : r'.control.pollerCancelled = true
  source : r'.control.source.lasting = r.released

/-- Whatever happens around a sampler in some turns, no one else closes its source. -/
def Undisputed (r : RemoteSampler) (h : Host) : List Turn → Prop
  | [] => True
  | t :: rest => (∀ now source network, t = .meet now source network →
      source.lasting = r.control.source.lasting) ∧
    Undisputed (r.step {} h t).1 (r.step {} h t).2 rest

variable {r r' r'' : RemoteSampler} {h : Host}

private theorem Holds.refl (r : RemoteSampler) : Holds r r := ⟨rfl, rfl, rfl, rfl⟩

private theorem Holds.trans (first : Holds r r') (second : Holds r' r'') : Holds r r'' where
  closed := second.closed.trans first.closed
  cancelled := second.cancelled.trans first.cancelled
  owns := second.owns.trans first.owns
  source := second.source.trans first.source

private theorem Releases.trans_holds (first : Releases r r') (second : Holds r' r'') :
    Releases r r'' where
  opened := first.opened
  closed := second.closed.trans first.closed
  cancelled := second.cancelled.trans first.cancelled
  source := second.source.trans first.source

/-- What is in force after another delegate took over, or after a source was asked, lets go of the
same things. -/
private theorem Holds.trans_releases (first : Holds r r')
    (same : r'.closingFault? = r.closingFault?)
    (second : Releases r' r'') : Releases r r'' where
  opened := first.closed.symm.trans second.opened
  closed := second.closed
  cancelled := second.cancelled
  source := by
    rw [second.source, released, released, same, first.owns, first.source]

section Operations

private theorem close_of_open (opened : r.control.closed = false) (h : Host) :
    (r.close {} h).2.1 =
      ⟨{ r.control with
          closed := true
          pollerCancelled := true
          source := if r.control.ownsSource && r.closingFault?.isNone then r.control.source.close
            else r.control.source },
        r.watch, (r.delegate.close r.watch h).2.1⟩ := by
  obtain ⟨control, watch, delegate⟩ := r
  have raised : closingFault? ⟨control, watch, delegate⟩ = (delegate.close watch h).1 :=
    delegate.fault_close watch {} h
  replace opened : control.closed = false := opened
  rw [raised, close, toSampler, Sampler.close]
  dsimp only [Watch.record, Watch.fault?]
  rw [opened, if_neg Bool.false_ne_true]
  cases ended : delegate.close watch h with
  | mk fault rest =>
    cases fault with
    | some f => simp [ofSampler?]
    | none => cases control.ownsSource <;> rfl

private theorem releases_close (opened : r.control.closed = false) (h : Host) :
    Releases r (r.close {} h).2.1 := by
  rw [close_of_open opened]
  refine ⟨opened, rfl, rfl, ?_⟩
  unfold released
  split
  · exact r.control.source.lasting_close
  · rfl

private theorem holds_close (closed : r.control.closed = true) (h : Host) :
    Holds r (r.close {} h).2.1 := by
  rcases close_cases {} r h with ⟨f, failed, -⟩ | ⟨-, -, same⟩ | ⟨-, opened, -⟩
  · cases failed
  · rw [same]
    exact .refl r
  · rw [closed] at opened
    cases opened

private theorem holds_or_releases_close (r : RemoteSampler) (h : Host) :
    Holds r (r.close {} h).2.1 ∨ Releases r (r.close {} h).2.1 := by
  cases closed : r.control.closed with
  | true => exact .inl (holds_close closed h)
  | false => exact .inr (releases_close closed h)

private theorem holds_or_releases_ask (r : RemoteSampler) (h : Host) :
    Holds r (r.ask {} h).2.1 ∨ Releases r (r.ask {} h).2.1 := by
  have fetched := r.control.source.lasting_fetch r.control.service h.network
  unfold ask
  dsimp only
  generalize r.control.source.fetch r.control.service h.network = answer at fetched ⊢
  obtain ⟨reply, source, network⟩ := answer
  have met : Holds r { r with control := { r.control with source } } := ⟨rfl, rfl, rfl, fetched⟩
  split
  · have closed := holds_or_releases_close { r with control := { r.control with source } }
      { h with network }
    cases ended : close {} { r with control := { r.control with source } } { h with network } with
    | mk fault rest =>
      rw [ended] at closed
      have after : Holds r rest.1 ∨ Releases r rest.1 :=
        closed.imp met.trans (met.trans_releases rfl)
      cases fault <;> exact after
  · exact .inl met

private theorem holds_replace (r : RemoteSampler) (watch : Watch) (s : Sampler) (h : Host) :
    Holds r (r.replace watch s h).2.1 := by
  unfold replace
  cases r.control.closed <;> exact ⟨rfl, rfl, rfl, rfl⟩

private theorem holds_applies {s : Strategy} {result : Option Fault × RemoteSampler × Host}
    (applies : Applies r s h result) : Holds r result.2.1 := by
  cases applies with
  | uniform | table => exact holds_replace ..
  | barren | inForce | unbuilt | kept | revised => exact ⟨rfl, rfl, rfl, rfl⟩

private theorem holds_or_releases_watching {after : RemoteSampler} (fresh : Watch)
    (ends : Holds r after ∨ Releases r after) :
    Holds r (r.watching fresh after) ∨ Releases r (r.watching fresh after) := by
  unfold watching
  split
  · exact ends
  · rcases ends with held | released
    · exact .inl ⟨held.closed, held.cancelled, held.owns, held.source⟩
    · exact .inr ⟨released.opened, released.closed, released.cancelled, released.source⟩

private theorem holds_or_releases_update (r : RemoteSampler) (h : Host) :
    Holds r (r.update {} h).2.1 ∨ Releases r (r.update {} h).2.1 := by
  have asked := holds_or_releases_ask r h
  rcases update_cases {} r h with ⟨f, -, done⟩ | ⟨s, -, -, done⟩ |
    ⟨opened, s, source, network, still, -, applies⟩
  · rw [done]
    exact asked
  · rw [done]
    exact asked
  · rw [still] at asked
    rcases asked with held | released
    · exact .inl (held.trans (holds_applies applies))
    · have closed : r.control.closed = true := released.closed
      rw [opened] at closed
      cases closed

private theorem holds_or_releases_step (r : RemoteSampler) (h : Host) {t : Turn}
    (undisputed : ∀ now source network, t = .meet now source network →
      source.lasting = r.control.source.lasting) :
    Holds r (r.step {} h t).1 ∨ Releases r (r.step {} h t).1 := by
  cases t with
  | sample operation traceId =>
    rw [step_sample]
    exact .inl ⟨rfl, rfl, rfl, rfl⟩
  | update fresh => exact holds_or_releases_watching fresh (holds_or_releases_update r h)
  | poll fresh =>
    obtain ⟨notices, polled⟩ := poll_eq {} r h
    unfold step
    rw [polled]
    exact holds_or_releases_watching fresh (holds_or_releases_update r h)
  | replace watch s => exact .inl (holds_replace r watch s h)
  | close => exact holds_or_releases_close r h
  | meet now source network =>
    exact .inl ⟨rfl, rfl, rfl, undisputed now source network rfl⟩

end Operations

section Runs

private theorem holds_steps (closed : r.control.closed = true) {turns : List Turn}
    (undisputed : r.Undisputed h turns) : Holds r (r.steps {} h turns).1 := by
  induction turns generalizing r h with
  | nil => exact .refl r
  | cons t rest ih =>
    obtain ⟨first, later⟩ := undisputed
    rcases holds_or_releases_step r h first with held | released
    · exact held.trans (ih (held.closed.trans closed) later)
    · have opened := released.opened
      rw [closed] at opened
      cases opened

private theorem undisputed_of_within {part all : List Turn} (within : part <+: all)
    (undisputed : r.Undisputed h all) : r.Undisputed h part := by
  induction part generalizing r h all with
  | nil => trivial
  | cons t rest ih =>
    obtain ⟨others, rfl⟩ := within
    exact ⟨undisputed.1, ih (List.prefix_append rest others) undisputed.2⟩

private theorem exists_releases (opened : r.control.closed = false) {turns : List Turn}
    (closing : .close ∈ turns) (undisputed : r.Undisputed h turns) :
    ∃ earlier t later, turns = earlier ++ t :: later ∧
      (∀ part, part <+: earlier → Holds r (r.steps {} h part).1) ∧
      ∀ more, more <+: later →
        Releases (r.steps {} h earlier).1 (r.steps {} h (earlier ++ t :: more)).1 := by
  -- either the first turn lets go of everything, or it holds all and the rest decides
  induction turns generalizing r h with
  | nil => cases closing
  | cons t rest ih =>
    obtain ⟨first, onward⟩ := undisputed
    by_cases ended : Releases r (r.step {} h t).1
    · refine ⟨[], t, rest, rfl, fun part within => ?_, fun more within => ?_⟩
      · rw [List.prefix_nil.mp within]
        exact .refl r
      · exact ended.trans_holds (holds_steps ended.closed (undisputed_of_within within onward))
    · have held := (holds_or_releases_step r h first).resolve_right ended
      have remains : .close ∈ rest := by
        rcases List.mem_cons.mp closing with rfl | remains
        · exact absurd (releases_close opened h) ended
        · exact remains
      obtain ⟨earlier, t', later, rfl, before, after⟩ :=
        ih (held.closed.trans opened) remains onward
      refine ⟨t :: earlier, t', later, rfl, fun part within => ?_, after⟩
      cases part with
      | nil => exact .refl r
      | cons t'' part =>
        obtain ⟨rfl, inside⟩ := List.cons_prefix_cons.mp within
        exact held.trans (before part inside)

/-- A delegate that goes by a label of its own and is in force when the sampler is closed is closed
once. -/
private theorem count_closings_inForce (opened : r.control.closed = false)
    {earlier later : List Turn}
    (ends : Releases (r.steps {} h earlier).1 (r.steps {} h (earlier ++ later)).1) {label : String}
    (there : (r.steps {} h earlier).1.watch.label = some label)
    (single : (r.watch.label.toList ++ (earlier ++ later).flatMap Turn.offered).count label ≤ 1)
    (apart : label ∉ r.delegate.inner ++ (earlier ++ later).flatMap Turn.inside) :
    (r.steps {} h (earlier ++ later)).2.closings.count label = h.closings.count label + 1 := by
  rw [steps_append] at ends ⊢
  obtain ⟨handed, among, first⟩ := succession_steps r h earlier
  obtain ⟨handed', among', second⟩ :=
    succession_steps (r.steps {} h earlier).1 (r.steps {} h earlier).2 later
  have fewer := among.count_le label
  have fewer' := among'.count_le label
  rw [List.mem_append, not_or, List.flatMap_append] at apart
  rw [List.flatMap_append, List.count_append, List.count_append] at single
  have counted := (first.trans second).closings label apart.1 apart.2
  have held := first.handed_of_inForce there
  rw [List.count_append, owed_of_open opened, owed_of_closed ends.closed] at counted
  omega

end Runs

/-- The first closing of a sampler cancels its poller and closes the delegate in force, whether that
delegate fails to close or not, and no later turn does so again. Before it, and for good if the
source is someone else's, the source is not closed. A source of the sampler's own is closed once and
for all then, unless the delegate failed to close; after such a failure it never is. -/
theorem released_once (r : RemoteSampler) (h : Host) (opened : r.control.closed = false)
    (turns : List Turn) (closing : .close ∈ turns) (undisputed : r.Undisputed h turns) :
    ∃ earlier t later, turns = earlier ++ t :: later ∧
      (∀ part, part <+: earlier →
        (r.steps {} h part).1.control.closed = false ∧
        (r.steps {} h part).1.control.source.lasting = r.control.source.lasting) ∧
      ∀ part, part <+: later →
        (r.steps {} h (earlier ++ t :: part)).1.control.closed = true ∧
        (r.steps {} h (earlier ++ t :: part)).1.control.pollerCancelled = true ∧
        (r.steps {} h (earlier ++ t :: part)).1.control.source.lasting =
          (if r.control.ownsSource && (r.steps {} h earlier).1.closingFault?.isNone then
            r.control.source.lasting.close else r.control.source.lasting) ∧
        ∀ label, (r.steps {} h earlier).1.watch.label = some label →
          (r.watch.label.toList ++ turns.flatMap Turn.offered).count label ≤ 1 →
          label ∉ r.delegate.inner ++ turns.flatMap Turn.inside →
          (r.steps {} h (earlier ++ t :: part)).2.closings.count label =
            h.closings.count label + 1 := by
  obtain ⟨earlier, t, later, rfl, before, after⟩ := exists_releases opened closing undisputed
  have held := before earlier List.prefix_rfl
  refine ⟨earlier, t, later, rfl, fun part within => ?_, fun part within => ?_⟩
  · exact ⟨(before part within).closed.trans opened, (before part within).source⟩
  have ends := after part within
  refine ⟨ends.closed, ends.cancelled, ?_, fun label there single apart => ?_⟩
  · rw [ends.source, released, held.owns, held.source]
  · have shorter : (earlier ++ t :: part).Sublist (earlier ++ t :: later) :=
      (within.sublist.cons_cons t).append_left earlier
    have fewer := ((shorter.flatMap Turn.offered).append_left r.watch.label.toList).count_le
      label
    refine count_closings_inForce opened ends there (fewer.trans single) fun m => apart ?_
    exact ((shorter.flatMap Turn.inside).append_left r.delegate.inner).subset m

/-- A sampler whose source, its own, asks for every second trace. -/
def keeper : RemoteSampler :=
  { control := { (aboutToHalve (.const true)).control with ownsSource := true }
    watch := ⟨some "first", none⟩
    delegate := .const true }

/-- The delegate that a poll brings is closed once; the source is, if that delegate is not stuck. -/
theorem second_closed_and_source_unless_stuck :
    let turns (failure : Option String) : List Turn :=
      [.update ⟨some "second", failure⟩, .close, .close]
    let healthy := keeper.steps {} {} (turns none)
    let stuck := keeper.steps {} {} (turns (some "stuck"))
    (healthy.1.control.pollerCancelled = true ∧ healthy.2.closings.count "second" = 1 ∧
      healthy.1.control.source.lasting = .scripted [] [] 1) ∧
    (stuck.1.control.pollerCancelled = true ∧ stuck.2.closings.count "second" = 1 ∧
      stuck.1.control.source.lasting = .scripted [] [] 0) := by
  intro turns
  have ended (failure : Option String) :
      (keeper.steps {} {} (turns failure)).1.control.pollerCancelled = true ∧
        (keeper.steps {} {} (turns failure)).2.closings.count "second" = 1 ∧
        (keeper.steps {} {} (turns failure)).1.control.source.lasting =
          if failure.isNone then .scripted [] [] 1 else .scripted [] [] 0 := by
    have closing : Turn.close ∈ turns failure := by simp [turns]
    have undisputed : keeper.Undisputed {} (turns failure) := by
      refine ⟨?_, ?_, ?_, trivial⟩ <;> exact fun now source network same => by cases same
    obtain ⟨earlier, t, later, split, before, after⟩ :=
      released_once keeper {} rfl (turns failure) closing undisputed
    have second : earlier = [.update ⟨some "second", failure⟩] := by
      rcases earlier with - | ⟨u, - | ⟨c, rest⟩⟩
      · obtain ⟨rfl, -⟩ := List.cons.inj split
        cases (after [] (List.nil_prefix ..)).1
      · obtain ⟨rfl, -⟩ := List.cons.inj split
        rfl
      · obtain ⟨rfl, others⟩ := List.cons.inj split
        obtain ⟨rfl, -⟩ := List.cons.inj others
        have opened := (before [.update ⟨some "second", failure⟩] ⟨_, rfl⟩).1
        have still := (before [.update ⟨some "second", failure⟩, .close] ⟨rest, rfl⟩).1
        exact absurd (still.symm.trans (releases_close opened _).closed) Bool.false_ne_true
    obtain ⟨-, cancelled, source, once⟩ := after later List.prefix_rfl
    rw [← split] at cancelled source once
    subst second
    have single : (keeper.watch.label.toList ++
        (turns failure).flatMap Turn.offered).count "second" ≤ 1 := le_of_eq rfl
    have apart : "second" ∉ keeper.delegate.inner ++ (turns failure).flatMap Turn.inside :=
      List.not_mem_nil
    refine ⟨cancelled, once "second" rfl single apart, source.trans ?_⟩
    cases failure <;> rfl
  exact ⟨ended none, ended (some "stuck")⟩

end RemoteSampler

end Tracing
