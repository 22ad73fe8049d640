import Tracing.Proofs.Sampling.Validity
import Tracing.Settings.TracerSettings
/-!
Settings that were made are valid: their numbers keep the bounds of their members and the service
has a name. Valid settings are read back from the members that they are shown with.
-/

set_option autoImplicit false
set_option relaxedAutoImplicit false

namespace Tracing

namespace Conversion

variable {bound : Bound} {ms : List (String × Json)} {names : List String}

private theorem holds_of_integer {bounds : List Bound} {v : Json} {n : Int}
    (h : integer bounds v = .ok n) : ∀ bound ∈ bounds, bound.holds (.integer n) = true := by
  unfold integer at h
  split at h
  case h_4 => split at h <;> exact holds_of_found .integer h
  all_goals exact holds_of_found .integer h

private theorem integer_of_holds {bounds : List Bound} {n : Int}
    (kept : ∀ bound ∈ bounds, bound.holds (.integer n) = true) :
    integer bounds (.integer n) = .ok n := by
  simp [integer, broken?_eq_none.mpr kept, bind, Except.bind]

private theorem holds_of_realMember {standard x : Binary64}
    (kept : bound.holds (.real standard) = true)
    (h : withDefault ms names standard (fun v => .ofProblem (real .memory [bound] v)) = .ok x) :
    bound.holds (.real x) = true := by
  rcases of_withDefault h with rfl | ⟨v, given⟩
  · exact kept
  · exact holds_of_real (Checked.of_ofProblem given) bound List.mem_cons_self

private theorem holds_of_integerMember {standard n : Int}
    (kept : bound.holds (.integer standard) = true)
    (h : withDefault ms names standard (fun v => .ofProblem (integer [bound] v)) = .ok n) :
    bound.holds (.integer n) = true := by
  rcases of_withDefault h with rfl | ⟨v, given⟩
  · exact kept
  · exact holds_of_integer (Checked.of_ofProblem given) bound List.mem_cons_self

end Conversion

open Conversion

namespace SamplerSettings

structure IsValid (s : SamplerSettings) : Prop where
  pollingInterval : (Bound.above 0).holds (.real s.pollingInterval) = true
  maxOperations : (Bound.above 0).holds (.integer s.maxOperations) = true
  httpTimeout : (Bound.above 0).holds (.real s.httpTimeout) = true

private theorem isValid_standard : ({} : SamplerSettings).IsValid :=
  ⟨by decide +kernel, by decide +kernel, by decide +kernel⟩

variable {s : SamplerSettings}

private theorem isValid_of_ofJson {v : Json} (h : ofJson v = .ok s) : s.IsValid := by
  obtain ⟨ms, -, read⟩ := ok_of_bind h
  dsimp only at read
  obtain ⟨⟨_, _, _, interval, operations, timeout⟩, parts, rfl⟩ := Checked.of_map read
  obtain ⟨-, parts⟩ := Checked.of_both parts
  obtain ⟨-, parts⟩ := Checked.of_both parts
  obtain ⟨-, parts⟩ := Checked.of_both parts
  obtain ⟨interval, parts⟩ := Checked.of_both parts
  obtain ⟨operations, timeout⟩ := Checked.of_both parts
  exact ⟨holds_of_realMember isValid_standard.pollingInterval interval,
    holds_of_integerMember isValid_standard.maxOperations operations,
    holds_of_realMember isValid_standard.httpTimeout timeout⟩

private theorem ofJson_toJson (valid : s.IsValid) :
    ofJson s.toJson = .ok { s with parameterIsLiteral := true } := by
  have choice : oneOf SamplerChoice.named (.text s.choice.name) = .ok s.choice := by
    cases s.choice <;> rfl
  have parameter : real .memory [] (.real s.parameter) = .ok s.parameter :=
    real_of_holds .memory nofun
  have interval := real_of_holds .memory (List.forall_mem_singleton.mpr valid.pollingInterval)
  have operations := integer_of_holds (List.forall_mem_singleton.mpr valid.maxOperations)
  have timeout := real_of_holds .memory (List.forall_mem_singleton.mpr valid.httpTimeout)
  show (((Checked.ofProblem (oneOf SamplerChoice.named (.text s.choice.name))).under _).both
    (((Checked.ofProblem (real .memory [] (.real s.parameter))).under _).both
    (((Checked.ofProblem (text (.text s.managerHostPort))).under _).both
    (((Checked.ofProblem (real .memory [.above 0] (.real s.pollingInterval))).under _).both
    (((Checked.ofProblem (integer [.above 0] (.integer s.maxOperations))).under _).both
    ((Checked.ofProblem (real .memory [.above 0] (.real s.httpTimeout))).under _)))))).map _ = _
  rw [choice, parameter, interval, operations, timeout]
  rfl

end SamplerSettings

namespace ReporterSettings

structure IsValid (s : ReporterSettings) : Prop where
  flushInterval : (Bound.above 0).holds (.real s.flushInterval) = true
  maxQueueSize : (Bound.above 0).holds (.integer s.maxQueueSize) = true
  closeEnqueueTimeout : (Bound.atLeast 0).holds (.real s.closeEnqueueTimeout) = true
  closeDrainTimeout : (Bound.atLeast 0).holds (.real s.closeDrainTimeout) = true
  maxBatchSize : (Bound.above 0).holds (.integer s.maxBatchSize) = true
  httpTimeout : (Bound.above 0).holds (.real s.httpTimeout) = true
  filterBelow : (Bound.atLeast 0).holds (.integer s.filterBelow) = true
  deferBelow : (Bound.atLeast 0).holds (.integer s.deferBelow) = true

private theorem isValid_standard : ({} : ReporterSettings).IsValid := by
  constructor <;> decide +kernel

variable {s : ReporterSettings}

private theorem isValid_of_ofJson {v : Json} (h : ofJson v = .ok s) : s.IsValid := by
  obtain ⟨ms, -, read⟩ := ok_of_bind h
  dsimp only at read
  obtain ⟨⟨_, interval, queue, enqueue, drain, _, _, batch, timeout, filter, defer_⟩, parts, rfl⟩ :=
    Checked.of_map read
  obtain ⟨-, parts⟩ := Checked.of_both parts
  obtain ⟨interval, parts⟩ := Checked.of_both parts
  obtain ⟨queue, parts⟩ := Checked.of_both parts
  obtain ⟨enqueue, parts⟩ := Checked.of_both parts
  obtain ⟨drain, parts⟩ := Checked.of_both parts
  obtain ⟨-, parts⟩ := Checked.of_both parts
  obtain ⟨-, parts⟩ := Checked.of_both parts
  obtain ⟨batch, parts⟩ := Checked.of_both parts
  obtain ⟨timeout, parts⟩ := Checked.of_both parts
  obtain ⟨filter, defer_⟩ := Checked.of_both parts
  have standard := isValid_standard
  exact {
    flushInterval := holds_of_realMember standard.flushInterval interval
    maxQueueSize := holds_of_integerMember standard.maxQueueSize queue
    closeEnqueueTimeout := holds_of_realMember standard.closeEnqueueTimeout enqueue
    closeDrainTimeout := holds_of_realMember standard.closeDrainTimeout drain
    maxBatchSize := holds_of_integerMember standard.maxBatchSize batch
    httpTimeout := holds_of_realMember standard.httpTimeout timeout
    filterBelow := holds_of_integerMember standard.filterBelow filter
    deferBelow := holds_of_integerMember standard.deferBelow defer_ }

private theorem optionalText_optionalJson (word : Option String) :
    optionalText (Sender.optionalJson word) = .ok word := by
  cases word <;> rfl

private theorem ofJson_toJson (valid : s.IsValid) : ofJson s.toJson = .ok s := by
  have number {bound : Bound} {x : Binary64} (kept : bound.holds (.real x) = true) :=
    real_of_holds .memory (List.forall_mem_singleton.mpr kept)
  have count {bound : Bound} {n : Int} (kept : bound.holds (.integer n) = true) :=
    integer_of_holds (List.forall_mem_singleton.mpr kept)
  show Except.map _ (((Checked.ofProblem (boolean (.truth s.logSpans))).under _).both
    (((Checked.ofProblem (real .memory [.above 0] (.real s.flushInterval))).under _).both
    (((Checked.ofProblem (integer [.above 0] (.integer s.maxQueueSize))).under _).both
    (((Checked.ofProblem (real .memory [.atLeast 0] (.real s.closeEnqueueTimeout))).under _).both
    (((Checked.ofProblem (real .memory [.atLeast 0] (.real s.closeDrainTimeout))).under _).both
    (((Checked.ofProblem (optionalText (Sender.optionalJson s.endpoint))).under _).both
    (((Checked.ofProblem (optionalText (Sender.optionalJson s.authToken))).under _).both
    (((Checked.ofProblem (integer [.above 0] (.integer s.maxBatchSize))).under _).both
    (((Checked.ofProblem (real .memory [.above 0] (.real s.httpTimeout))).under _).both
    (((Checked.ofProblem (integer [.atLeast 0] (.integer s.filterBelow))).under _).both
    ((Checked.ofProblem (integer [.atLeast 0] (.integer s.deferBelow))).under _))))))))))) = _
  rw [number valid.flushInterval, count valid.maxQueueSize, number valid.closeEnqueueTimeout,
    number valid.closeDrainTimeout, optionalText_optionalJson, optionalText_optionalJson,
    count valid.maxBatchSize, number valid.httpTimeout, count valid.filterBelow,
    count valid.deferBelow]
  rfl

end ReporterSettings

namespace TracerSettings

structure IsValid (s : TracerSettings) : Prop where
  service : s.service.isEmpty = false
  sampler : s.sampler.IsValid
  reporter : s.reporter.IsValid

variable {s : TracerSettings}

private theorem isValid_of_ofMembers {ms : List (String × Json)} (h : ofMembers ms = .ok s) :
    s.IsValid := by
  unfold ofMembers at h
  dsimp only at h
  split at h
  · cases h
  obtain ⟨⟨service, _, sampler, reporter, _⟩, parts, rfl⟩ := Checked.of_map h
  obtain ⟨service, parts⟩ := Checked.of_both parts
  obtain ⟨-, parts⟩ := Checked.of_both parts
  obtain ⟨sampler, parts⟩ := Checked.of_both parts
  obtain ⟨reporter, -⟩ := Checked.of_both parts
  refine ⟨?_, ?_, ?_⟩
  · obtain ⟨v, named⟩ := of_required service
    obtain ⟨name, -, nonempty⟩ := ok_of_bind (Checked.of_ofProblem named)
    split at nonempty
    · cases nonempty
    next full =>
      cases nonempty
      exact Bool.eq_false_iff.mpr full
  · rcases of_withDefault sampler with rfl | ⟨v, given⟩
    · exact SamplerSettings.isValid_standard
    · exact SamplerSettings.isValid_of_ofJson given
  · rcases of_withDefault reporter with rfl | ⟨v, given⟩
    · exact ReporterSettings.isValid_standard
    · exact ReporterSettings.isValid_of_ofJson given

theorem isValid_of_create {given : List (String × Json)} {env : Environment}
    (h : create given env = .ok s) : s.IsValid := by
  obtain ⟨rules, -, h⟩ := ok_of_bind h
  obtain ⟨below, -, h⟩ := ok_of_bind h
  dsimp only at h
  split at h
  · cases h
  · generalize read : ofMembers _ = settings at h
    cases settings with
    | error => cases h
    | ok settings =>
      cases h
      exact isValid_of_ofMembers read

def members (s : TracerSettings) : List (String × Json) :=
  [("service_name", .text s.service), ("metrics_prefix", .text s.metricsPrefix),
    ("sampler", s.sampler.toJson), ("reporter", s.reporter.toJson)]

/-- Settings with the parameter of the sampler as a file writes it. -/
def literal (s : TracerSettings) : TracerSettings :=
  { s with sampler := { s.sampler with parameterIsLiteral := true } }

theorem ofMembers_members (valid : s.IsValid) : ofMembers s.members = .ok s.literal := by
  have service : nonemptyText (.text s.service) = .ok s.service := by
    show (if s.service.isEmpty then _ else _) = _
    rw [valid.service]
    rfl
  show Except.map _ (((Checked.ofProblem (nonemptyText (.text s.service))).under _).both
    (((Checked.ofProblem (text (.text s.metricsPrefix))).under _).both
    (((SamplerSettings.ofJson s.sampler.toJson).under _).both
    (((ReporterSettings.ofJson s.reporter.toJson).under _).both (.ok ()))))) = _
  rw [service, SamplerSettings.ofJson_toJson valid.sampler,
    ReporterSettings.ofJson_toJson valid.reporter]
  rfl

end TracerSettings

end Tracing
