import Tracing.Proofs.Sampling.TableRun
/-!
Operations in one table do not interfere. Questions about other operations may fill the table, and
so decide what later updates find room for, but an operation that is in it is answered from its own
entry alone, and an update moves that entry by its own numbers alone.
-/

set_option autoImplicit false
set_option relaxedAutoImplicit false

namespace Tracing

namespace OperationTable

/-- The answer a call gives about an operation, if it asks for it. -/
def answer? (asked : String) (t : OperationTable) : Call → Option (Except Fault SamplingStatus)
  | .sample now operation traceId =>
    if operation = asked then some ((t.sample now operation traceId).map Prod.fst) else none
  | .update .. => none

def answersTo (asked : String) (t : OperationTable) :
    List Call → List (Except Fault SamplingStatus)
  | [] => []
  | call :: rest => (t.answer? asked call).toList ++ (t.after call).answersTo asked rest

/-- One run is another without some of its questions about other operations. -/
inductive Spares (asked : String) : List Call → List Call → Prop
  | nil : Spares asked [] []
  | keep (call : Call) {calls fewer : List Call} :
      Spares asked calls fewer → Spares asked (call :: calls) (call :: fewer)
  | drop {now : Number} {operation : String} {traceId : Int} {calls fewer : List Call} :
      operation ≠ asked → Spares asked calls fewer →
      Spares asked (.sample now operation traceId :: calls) fewer

/-- Two tables that may have nothing in common but the entry of one operation. -/
structure Shares (asked : String) (g : Guaranteed) (t t' : OperationTable) : Prop where
  left : find? asked t.entries = some g
  right : find? asked t'.entries = some g

section Steps

variable {asked : String} {g : Guaranteed} {t t' : OperationTable}

private theorem answer?_of_other {operation : String} (now : Number) (traceId : Int)
    (other : operation ≠ asked) : t.answer? asked (.sample now operation traceId) = none := by
  simp [answer?, other]

private theorem find?_after_other {operation : String} (now : Number) (traceId : Int)
    (present : find? asked t.entries = some g) (other : operation ≠ asked) :
    find? asked (t.after (.sample now operation traceId)).entries = some g := by
  unfold after
  dsimp only
  split
  case h_2 => exact present
  case h_1 answered =>
    rcases sample_cases answered with ⟨own, own', -, -, rfl⟩ | ⟨-, -, -, rfl⟩ |
      ⟨-, -, own, own', -, -, rfl⟩
    · rw [find?_set_other other]
      exact present
    · exact present
    · rw [find?_append, present, Option.some_or]

private theorem sample_of_present (now : Number) (traceId : Int)
    (present : find? asked t.entries = some g) :
    t.sample now asked traceId = (g.sample now traceId).map fun (status, g) =>
      (status, { t with entries := set asked g t.entries }) := by
  unfold sample
  rw [present]

private theorem Shares.sample (shares : Shares asked g t t') (now : Number) (traceId : Int) :
    t'.answer? asked (.sample now asked traceId) = t.answer? asked (.sample now asked traceId) ∧
      ∃ g', Shares asked g' (t.after (.sample now asked traceId))
        (t'.after (.sample now asked traceId)) := by
  have first := sample_of_present now traceId shares.left
  have second := sample_of_present now traceId shares.right
  simp only [answer?, after, if_true]
  rw [first, second]
  cases g.sample now traceId with
  | error f => exact ⟨rfl, g, shares.left, shares.right⟩
  | ok answer =>
    obtain ⟨status, g'⟩ := answer
    exact ⟨rfl, g', find?_set_self shares.left, find?_set_self shares.right⟩

private theorem Shares.update (shares : Shares asked g t t') {now : Number}
    {p : OperationParameters}
    (takes : t.Takes (.update now p)) (takes' : t'.Takes (.update now p)) :
    ∃ g', Shares asked g' (t.after (.update now p)) (t'.after (.update now p)) := by
  obtain ⟨changed, went⟩ := takes
  obtain ⟨changed', went'⟩ := takes'
  obtain ⟨fresh, updated⟩ := updated_of_update went
  obtain ⟨fresh', updated'⟩ := updated_of_update went'
  obtain ⟨moves, own, moved, found⟩ := updated.kept asked g shares.left
  obtain ⟨moves', own', moved', found'⟩ := updated'.kept asked g shares.right
  rw [moved] at moved'
  cases moved'
  exact ⟨own, found, found'⟩

private theorem Shares.after (shares : Shares asked g t t') {call : Call} (takes : t.Takes call)
    (takes' : t'.Takes call) :
    t'.answer? asked call = t.answer? asked call ∧
      ∃ g', Shares asked g' (t.after call) (t'.after call) := by
  cases call with
  | update now p => exact ⟨rfl, shares.update takes takes'⟩
  | sample now operation traceId =>
    by_cases same : operation = asked
    · subst same
      exact shares.sample now traceId
    · rw [answer?_of_other now traceId same, answer?_of_other now traceId same]
      exact ⟨rfl, g, find?_after_other now traceId shares.left same,
        find?_after_other now traceId shares.right same⟩

end Steps

section Runs

variable {asked : String} {calls fewer : List Call}

private theorem Spares.answersTo (spares : Spares asked calls fewer) {g : Guaranteed}
    {t t' : OperationTable} (shares : Shares asked g t t') (succeeds : t.Succeeds calls)
    (succeeds' : t'.Succeeds fewer) : t'.answersTo asked fewer = t.answersTo asked calls := by
  induction spares generalizing g t t' with
  | nil => rfl
  | keep call _ ih =>
    obtain ⟨takes, succeeds⟩ := succeeds
    obtain ⟨takes', succeeds'⟩ := succeeds'
    obtain ⟨same, g', shares⟩ := shares.after takes takes'
    have later := ih shares succeeds succeeds'
    show (t'.answer? asked call).toList ++ _ = (t.answer? asked call).toList ++ _
    rw [same, later]
  | @drop now operation traceId _ _ other _ ih =>
    have left := find?_after_other now traceId shares.left other
    have later := ih ⟨left, shares.right⟩ succeeds.2 succeeds'
    show _ = (t.answer? asked _).toList ++ _
    rw [answer?_of_other now traceId other, later]
    rfl

private theorem Spares.mem (spares : Spares asked calls fewer) {call : Call} (m : call ∈ fewer) :
    call ∈ calls := by
  induction spares with
  | nil => exact m
  | keep own _ ih =>
    rcases List.mem_cons.mp m with rfl | m
    · exact List.mem_cons_self
    · exact List.mem_cons_of_mem _ (ih m)
  | drop _ _ ih => exact List.mem_cons_of_mem _ (ih m)

private theorem succeeds_of_isSound (t : OperationTable)
    (sound : ∀ now p, .update now p ∈ calls → p.IsSound) : t.Succeeds calls := by
  induction calls generalizing t with
  | nil => trivial
  | cons call rest ih =>
    refine ⟨?_, ih _ fun now p m => sound now p (List.mem_cons_of_mem _ m)⟩
    cases call with
    | sample => trivial
    | update now p =>
      obtain ⟨changed, t', notices, updated, -⟩ :=
        follows_of_update t (sound now p List.mem_cons_self) now
      exact ⟨changed, by rw [updated]⟩

/-- Questions about other operations can be left out of a run without a change to the answers about
an operation that is in the table, as long as the updates go through. Updates to sound parameters
go through in both runs. -/
theorem answersTo_of_spares {t : OperationTable} (present : asked ∈ t.names)
    (spares : Spares asked calls fewer) :
    (t.Succeeds calls → t.Succeeds fewer →
        t.answersTo asked fewer = t.answersTo asked calls) ∧
      ((∀ now p, .update now p ∈ calls → p.IsSound) →
        t.Succeeds calls ∧ t.Succeeds fewer) := by
  constructor
  · intro succeeds succeeds'
    have found : find? asked t.entries ≠ none := fun absent => find?_eq_none_iff.mp absent present
    obtain ⟨g, found⟩ := Option.ne_none_iff_exists'.mp found
    exact spares.answersTo ⟨found, found⟩ succeeds succeeds'
  · intro sound
    exact ⟨succeeds_of_isSound t sound,
      succeeds_of_isSound t fun now p m => sound now p (spares.mem m)⟩

end Runs

def cartTable : OperationTable where
  maxOperations := .integer 2
  defaultRate := .standard
  lowerBound := .one
  entries := [("cart", ⟨.standard, ⟨.one, .full .one .one (.integer 0)⟩⟩)]

theorem cart_answered_without_home :
    cartTable.answersTo "cart" [.sample (.integer 1) "cart" 7,
        .update (.integer 3) everyTrace, .sample (.integer 4) "cart" 8] =
      cartTable.answersTo "cart" [.sample (.integer 1) "cart" 7, .sample (.integer 2) "home" 7,
        .update (.integer 3) everyTrace, .sample (.integer 4) "cart" 8] := by
  have one : Binary64.one.IsShare := by
    unfold Binary64.IsShare
    decide +kernel
  have zero : (Binary64.zero false).IsLimit := by
    unfold Binary64.IsLimit
    decide +kernel
  have sound : everyTrace.IsSound := ⟨one, zero, by simp [everyTrace]⟩
  have spares : Spares "cart"
      [.sample (.integer 1) "cart" 7, .sample (.integer 2) "home" 7,
        .update (.integer 3) everyTrace, .sample (.integer 4) "cart" 8]
      [.sample (.integer 1) "cart" 7,
        .update (.integer 3) everyTrace, .sample (.integer 4) "cart" 8] :=
    .keep _ (.drop (by decide) (.keep _ (.keep _ .nil)))
  obtain ⟨alike, succeed⟩ := answersTo_of_spares (t := cartTable) List.mem_cons_self spares
  obtain ⟨whole, thinned⟩ := succeed fun now p m => by
    obtain ⟨-, rfl⟩ : now = .integer 3 ∧ p = everyTrace := by simpa using m
    exact sound
  exact alike whole thinned

end OperationTable

end Tracing
