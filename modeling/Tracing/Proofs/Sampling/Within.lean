import Tracing.Proofs.Sampling.Turns
import Tracing.Settings.SamplerSettings
/-!
The buckets and tables that samplers hold, however deep. What every bucket and every table has from
the start, and no question or update takes from it, those within a sampler keep whatever is done to
the sampler.
-/

set_option autoImplicit false
set_option relaxedAutoImplicit false

namespace Tracing

namespace Guaranteed

variable {g g' : Guaranteed} {now : Number}

theorem floor_of_create {rate bound : Number} (h : create rate bound now = .ok g) :
    Throughput.create bound now = .ok g.floor := by
  obtain ⟨share, -, h⟩ := ok_of_bind h
  obtain ⟨floor, limited, h⟩ := ok_of_bind h
  cases h
  exact limited

theorem floor_of_sample {traceId : Int} {status : SamplingStatus}
    (h : g.sample now traceId = .ok (status, g')) :
    ∃ granted, g.floor.ask now = .ok (granted, g'.floor) := by
  obtain ⟨⟨granted, floor⟩, asked, same⟩ := ok_of_map h
  cases same
  exact ⟨granted, asked⟩

/-- An update that goes through keeps the floor or makes one of the bound given. -/
theorem floor_of_updated {rate bound : Number} {changed : Bool}
    (h : g.update rate bound now = .ok (changed, g')) :
    g'.floor = g.floor ∨ Throughput.create bound now = .ok g'.floor := by
  obtain ⟨-, -, floor⟩ := parts_of_ok h
  split at floor
  · exact .inl floor
  · exact .inr floor

theorem floor_of_updateGiven {rate bound : Json} {changed : Bool}
    (h : g.updateGiven rate bound now = .ok (changed, g')) :
    g'.floor = g.floor ∨
      ∃ n, bound.number = .ok n ∧ Throughput.create n now = .ok g'.floor := by
  unfold updateGiven at h
  obtain ⟨share, -, h⟩ := ok_of_bind h
  cases limit : bound.number with
  | ok n =>
    rw [limit] at h
    exact (floor_of_updated h).imp_right fun made => ⟨n, rfl, made⟩
  | error f =>
    rw [limit] at h
    obtain ⟨moved, -, h⟩ := ok_of_bind h
    cases h

end Guaranteed

/-- What is said of the buckets and the tables within a sampler. -/
structure Parts where
  bucket : Throughput → Prop
  table : OperationTable → Prop

/-- What buckets and tables have from the start and never lose, if the limits handed in by hand are
the given ones. -/
structure Parts.IsLasting (given : Number → Prop) (parts : Parts) : Prop where
  handed : ∀ {limit now : Number} {t : Throughput}, given limit →
    Throughput.create limit now = .ok t → parts.bucket t
  limited : ∀ {x : Binary64} {now : Number} {t : Throughput}, x.IsLimit →
    Throughput.create (.real x) now = .ok t → parts.bucket t
  asked : ∀ {t t' : Throughput} {now : Number} {granted : Bool}, parts.bucket t →
    t.ask now = .ok (granted, t') → parts.bucket t'
  made : ∀ {n : Number} {p : OperationParameters} {now : Number} {t : OperationTable}, p.IsSound →
    (OperationTable.create n p now).1 = .ok t → parts.table t
  sampled : ∀ {t t' : OperationTable} {now : Number} {operation : String} {traceId : Int}
    {status : SamplingStatus}, parts.table t → t.sample now operation traceId = .ok (status, t') →
    parts.table t'
  enrolled : ∀ {t : OperationTable}, parts.table t → ∀ now operation,
    parts.table (t.enroll now operation)
  updated : ∀ {t : OperationTable} {p : OperationParameters}, parts.table t → p.IsSound → ∀ now,
    parts.table (t.update p now).table

variable {given : Number → Prop} {parts : Parts}

namespace Sampler

/-- Whether it holds of the bucket or the table of a sampler, or of the one within it. -/
def Within (parts : Parts) : Sampler → Prop
  | const _ | probabilistic _ => True
  | rateLimiting t => parts.bucket t
  | guaranteed g => parts.bucket g.floor
  | perOperation t => parts.table t
  | remote _ _ delegate => delegate.Within parts

private theorem within_sample (lasting : parts.IsLasting given) {s s' : Sampler}
    (own : s.Within parts)
    {now : Number} {operation : String} {traceId : Int} {status : SamplingStatus}
    (h : s.sample now operation traceId = .ok (status, s')) : s'.Within parts := by
  induction s generalizing s' status with
  | const | probabilistic =>
    cases h
    trivial
  | rateLimiting t =>
    obtain ⟨answer, limited, same⟩ := ok_of_map h
    obtain ⟨granted, asked, rfl⟩ := ok_of_map limited
    cases same
    exact lasting.asked own asked
  | guaranteed g =>
    obtain ⟨answer, answered, same⟩ := ok_of_map h
    obtain ⟨granted, asked⟩ := Guaranteed.floor_of_sample answered
    cases same
    exact lasting.asked own asked
  | perOperation t =>
    obtain ⟨answer, answered, same⟩ := ok_of_map h
    cases same
    exact lasting.sampled own answered
  | remote control watch delegate ih =>
    obtain ⟨⟨status', d⟩, answered, same⟩ := ok_of_map h
    cases same
    show d.Within parts
    exact ih own answered

private theorem within_sampleUnidentified (lasting : parts.IsLasting given) {s : Sampler}
    (own : s.Within parts) (now : Number) (operation : String) :
    (s.sampleUnidentified now operation).2.Within parts := by
  induction s with
  | rateLimiting t =>
    unfold sampleUnidentified
    split
    case h_1 answered =>
      obtain ⟨granted, asked, same⟩ := ok_of_map answered
      cases same
      exact lasting.asked own asked
    case h_2 => exact own
  | perOperation t => exact lasting.enrolled own now operation
  | remote control watch delegate ih => exact ih own
  | _ => exact own

theorem within_sampleGiven (lasting : parts.IsLasting given) {s : Sampler} (own : s.Within parts)
    (now : Number) (operation traceId : Json) :
    (s.sampleGiven now operation traceId).2.Within parts := by
  rcases s.sampleGiven_cases now operation traceId with same | ⟨id, status, answered⟩ | same
  · rw [same]
    exact own
  · exact within_sample lasting own answered
  · rw [same]
    exact within_sampleUnidentified lasting own now operation.plain

theorem within_close {s : Sampler} (own : s.Within parts) (watch : Watch) (h : Host) :
    (s.close watch h).2.1.Within parts := by
  induction s generalizing watch h with
  | remote control delegateWatch delegate ih =>
    have inner := ih own delegateWatch (watch.record h)
    rw [close]
    dsimp only
    split
    · exact own
    · split
      · exact own
      · split <;> exact inner
  | _ => exact own

end Sampler

namespace RemoteSampler

variable {r : RemoteSampler}

theorem within_replace (inner : r.delegate.Within parts) (watch : Watch) {s : Sampler}
    (own : s.Within parts) (h : Host) : (r.replace watch s h).2.1.delegate.Within parts := by
  unfold replace
  split
  · exact inner
  · exact own

private theorem within_ask (inner : r.delegate.Within parts) (own : Watch) (h : Host) :
    (r.ask own h).2.1.delegate.Within parts := by
  refine of_ask (P := fun r' _ => r'.delegate.Within parts) own r h ?_ ?_
  · exact fun _ _ => inner
  · intro r' h' still
    rcases close_cases own r' h' with ⟨f, -, done⟩ | ⟨-, -, done⟩ | ⟨-, -, source, done⟩
    · rw [done]
      exact still
    · rw [done]
      exact still
    · rw [done]
      exact Sampler.within_close still r'.watch (own.record h')

private theorem within_of_sampler? (lasting : parts.IsLasting given) {s : Strategy}
    (sound : s.IsSound)
    {now : Number} {x : Sampler} (asked : s.sampler? now = .ok (some x)) : x.Within parts := by
  have limited : ∀ limit, s.rateLimiting = some limit →
      (Throughput.create (.real limit) now).map (fun t => some (Sampler.rateLimiting t)) =
        .ok (some x) → x.Within parts := by
    intro limit there made
    obtain ⟨t, created, same⟩ := ok_of_map made
    cases same
    exact lasting.limited (sound.limit limit there) created
  unfold Strategy.sampler? at asked
  dsimp only at asked
  split at asked
  case h_1 limit _ there => exact limited limit there asked
  case h_2 rate _ _ =>
    obtain ⟨share, -, same⟩ := ok_of_map asked
    cases same
    trivial
  case h_3 limit _ there _ => exact limited limit there asked
  case h_4 => cases asked

theorem within_update (lasting : parts.IsLasting given) (inner : r.delegate.Within parts)
    (own : Watch) (h : Host) : (r.update own h).2.1.delegate.Within parts := by
  have asked := within_ask inner own h
  rcases update_cases own r h with ⟨f, -, done⟩ | ⟨s, -, -, done⟩ |
    ⟨opened, s, source, network, met, sound, applies⟩
  · rw [done]
    exact asked
  · rw [done]
    exact asked
  · generalize r.update own h = result at applies ⊢
    cases applies with
    | barren | inForce | unbuilt => exact inner
    | uniform absent selects chosen differ =>
      refine within_replace ?_ {} (within_of_sampler? lasting sound chosen) _
      exact inner
    | @table p n t notices there other number made =>
      have table : Sampler.Within parts (.perOperation t) :=
        lasting.made (sound.operations p there) made
      refine within_replace ?_ {} table _
      exact inner
    | @kept p t t' notices notices' there before updated
    | @revised p t t' notices notices' there before updated =>
      have table : parts.table t := by
        rw [before] at inner
        exact inner
      have next := lasting.updated table (sound.operations p there)
        (Host.count { h with network } r.control.metered .samplerRetrieved 1).now
      rw [updated] at next
      exact next

end RemoteSampler

theorem SamplerSettings.within_of_createSampler (lasting : parts.IsLasting given)
    {s : SamplerSettings} (handed : given (.real s.parameter)) {service : Json} {metered : Bool}
    {h : Host} {x : Sampler} (made : (s.createSampler service metered h).1 = .ok x) :
    x.Within parts := by
  unfold createSampler at made
  split at made
  · cases made
    trivial
  · obtain ⟨rate, -, same⟩ := ok_of_map made
    cases same
    trivial
  · obtain ⟨t, created, same⟩ := ok_of_map made
    cases same
    exact lasting.handed handed created
  · split at made
    · cases made
    case h_2 r built =>
      have own : r.delegate.Within parts := by
        obtain ⟨rate, -, built⟩ := ok_of_bind built
        unfold RemoteSampler.create at built
        split at built
        · cases built
        · cases built
          trivial
      have polled := RemoteSampler.within_update lasting own {} h
      obtain ⟨notices, same⟩ := RemoteSampler.poll_eq {} r h
      dsimp only at made
      rw [same] at made
      cases made
      exact polled

end Tracing
