import Tracing.Proofs.Sampling.Within
/-!
The numbers that samplers run with. Shares lie between zero and one, tables have room for an
operation, and a number of traces per second is no less than zero, unless it was handed in by hand
and is no number at all.
-/

set_option autoImplicit false
set_option relaxedAutoImplicit false

namespace Tracing

namespace Binary64

private theorem exact_nonneg (m : Nat) (e : Int) : 0 ≤ exact false m e := by
  unfold exact
  split
  · exact le_refl _
  · dsimp only
    split
    · simp only [Bool.false_eq_true, if_false]
      positivity
    · exact Rat.mkRat_nonneg (Int.natCast_nonneg m) _

private theorem isLimit_ofRatio (num den : Nat) : (ofRatio false num den).IsLimit := by
  have finite : ∀ m e h, (Binary64.finite false m e h).IsLimit := by
    intro m e h
    refine isLimit_iff.mpr ⟨.value (exact false m e), rfl, ?_⟩
    simpa [Extended.blt] using exact_nonneg m e
  have infinite : (Binary64.infinite false).IsLimit := isLimit_iff.mpr ⟨.posInfinity, rfl, rfl⟩
  unfold ofRatio
  split
  · exact finite 0 (-1074) (by decide)
  · dsimp only
    split
    · split
      · exact finite _ _ _
      · exact infinite
    · split
      · exact finite _ _ _
      · exact infinite

end Binary64

/-- A check keeps the rate of a bucket, and remembers when it was made. -/
theorem TokenBucket.frame_of_check {K : Type} [Credit K] {b b' : TokenBucket K} {now : Number}
    {cost : K} {granted : Bool} (h : b.check now cost = some (granted, b')) :
    b'.rate = b.rate ∧ b'.lastTick = now := by
  obtain ⟨filled, accrued, same⟩ := Option.map_eq_some_iff.mp h
  obtain ⟨elapsed, -, rfl⟩ := Option.map_eq_some_iff.mp accrued
  split at same
  · cases same
    exact ⟨rfl, rfl⟩
  · cases same
    exact ⟨rfl, rfl⟩

namespace Throughput

/-- A number of traces per second whose bucket fills at it, and which is no less than zero unless it
was given and is no number at all. -/
structure IsAllowed (given : Number → Prop) (t : Throughput) : Prop where
  rate : t.bucket.rate = t.limit
  limit : t.limit.IsLimit ∨ t.limit = .nan ∧ given (.real .nan)

variable {given : Number → Prop} {t t' : Throughput} {limit now : Number}

private theorem isLimit_or_nan {x : Binary64} (above : limit.lt (.integer 0) = false)
    (h : limit.toBinary64? = some x) : x.IsLimit ∨ limit = .real .nan ∧ x = .nan := by
  cases limit with
  | integer n =>
    left
    have nonneg : ¬ n < 0 := by
      intro negative
      have below : (n : Rat) < 0 := by exact_mod_cast negative
      simp [Number.lt, Number.extended?, Extended.blt, below] at above
    have made : Binary64.ofInt? n = some x := h
    unfold Binary64.ofInt? Binary64.ofInt at made
    rw [decide_eq_false nonneg] at made
    dsimp only at made
    split at made
    · cases made
      exact Binary64.isLimit_ofRatio _ _
    · cases made
  | truth b =>
    left
    cases h
    cases b
    · exact Binary64.isLimit_ofRatio 0 1
    · exact Binary64.isLimit_iff.mpr ⟨.value 1, Binary64.extended?_one, rfl⟩
  | real y =>
    cases h
    cases x with
    | nan => exact .inr ⟨rfl, rfl⟩
    | infinite s =>
      left
      cases s with
      | false => exact Binary64.isLimit_iff.mpr ⟨.posInfinity, rfl, rfl⟩
      | true => cases above
    | finite s m e canonical =>
      exact .inl (Binary64.isLimit_iff.mpr ⟨_, rfl, above⟩)

private theorem rate_of_create (h : create limit now = .ok t) : t.bucket.rate = t.limit := by
  rw [(parts_of_create h).2.2]
  rfl

private theorem isAllowed_of_create (handed : given limit) (h : create limit now = .ok t) :
    t.IsAllowed given := by
  obtain ⟨above, place, -⟩ := parts_of_create h
  refine ⟨rate_of_create h, (isLimit_or_nan above place).imp_right ?_⟩
  rintro ⟨same, none⟩
  exact ⟨none, same ▸ handed⟩

private theorem isAllowed_of_isLimit {x : Binary64} (isLimit : x.IsLimit)
    (h : create (.real x) now = .ok t) : t.IsAllowed given := by
  refine ⟨rate_of_create h, .inl ?_⟩
  rw [limit_of_create h]
  exact isLimit

private theorem IsAllowed.of_ask {granted : Bool} (allowed : t.IsAllowed given)
    (h : t.ask now = .ok (granted, t')) : t'.IsAllowed given := by
  obtain ⟨bucket, checked, rfl⟩ := check_of_ask h
  exact ⟨(TokenBucket.frame_of_check checked).1.trans allowed.rate, allowed.limit⟩

end Throughput

/-- A share and a floor, each with a number it may have. -/
structure Guaranteed.InRange (given : Number → Prop) (g : Guaranteed) : Prop where
  rate : g.rate.value.IsShare
  floor : g.floor.IsAllowed given

namespace OperationTable

/-- A table with room for an operation, of shares and limits alone. -/
structure InRange (t : OperationTable) : Prop where
  capacity : ∀ n, t.maxOperations.toInt? = some n → 1 ≤ n
  rate : t.defaultRate.value.IsShare
  bound : t.lowerBound.IsLimit
  entries : ∀ entry ∈ t.entries, entry.2.InRange fun _ => False

section Moves

variable {bound : Binary64} {now : Number} {P : Guaranteed → Prop}

private theorem forall_set {name : String} {g : Guaranteed} {xs : List (String × Guaranteed)}
    (all : ∀ entry ∈ xs, P entry.2) (own : P g) : ∀ entry ∈ set name g xs, P entry.2 := by
  induction xs with
  | nil => exact all
  | cons x rest ih =>
    obtain ⟨k, first⟩ := x
    obtain ⟨here, others⟩ := List.forall_mem_cons.mp all
    unfold set
    split
    · exact List.forall_mem_cons.mpr ⟨own, others⟩
    · exact List.forall_mem_cons.mpr ⟨here, ih others⟩

/-- What every update keeps, and every entry has, every entry has after they are moved, refused or
not. -/
private theorem forall_moveUnnamed (named : List (String × Binary64)) {rate : Rate}
    (keeps : ∀ g changed g', P g →
      g.update (.real rate.value) (.real bound) now = .ok (changed, g') → P g')
    (entries : List (String × Guaranteed)) (all : ∀ entry ∈ entries, P entry.2) :
    ∀ entry ∈ (moveUnnamed named rate bound now entries).2, P entry.2 := by
  induction entries with
  | nil => exact all
  | cons x rest ih =>
    obtain ⟨k, g⟩ := x
    obtain ⟨here, others⟩ := List.forall_mem_cons.mp all
    rw [moveUnnamed]
    split
    · exact List.forall_mem_cons.mpr ⟨here, ih others⟩
    · cases updated : g.update (.real rate.value) (.real bound) now with
      | error f => exact all
      | ok done =>
        obtain ⟨changed, g'⟩ := done
        exact List.forall_mem_cons.mpr ⟨keeps g changed g' here updated, ih others⟩

private theorem forall_moveNamed (maxOperations : Number) (named : List (String × Binary64))
    (keeps : ∀ rate g changed g', P g →
      g.update (.real rate) (.real bound) now = .ok (changed, g') → P g')
    (makes : ∀ rate g, Guaranteed.create (.real rate) (.real bound) now = .ok g → P g)
    (p : Progress) (old : ∀ entry ∈ p.old, P entry.2) (new : ∀ entry ∈ p.new, P entry.2) :
    (∀ entry ∈ (moveNamed maxOperations bound now named p).2.old, P entry.2) ∧
      ∀ entry ∈ (moveNamed maxOperations bound now named p).2.new, P entry.2 := by
  induction named generalizing p with
  | nil => exact ⟨old, new⟩
  | cons x rest ih =>
    obtain ⟨k, rate⟩ := x
    rw [moveNamed]
    cases found : find? k p.old with
    | some g =>
      have own : P g := old (k, g) (mem_of_find? found)
      dsimp only
      cases updated : g.update (.real rate) (.real bound) now with
      | error f => exact ⟨old, new⟩
      | ok done =>
        obtain ⟨changed, g'⟩ := done
        exact ih _ (forall_set old (keeps rate g changed g' own updated)) new
    | none =>
      dsimp only
      split
      · cases made : Guaranteed.create (.real rate) (.real bound) now with
        | error f => exact ⟨old, new⟩
        | ok g =>
          refine ih _ old ?_
          intro entry m
          rcases List.mem_append.mp m with m | m
          · exact new entry m
          · rw [List.mem_singleton.mp m]
            exact makes rate g made
      · exact ih _ old new

end Moves

variable {t t' : OperationTable} {p : OperationParameters} {now : Number}

private theorem InRange.update (inRange : t.InRange) (sound : p.IsSound) (now : Number) :
    (t.update p now).table.InRange := by
  have keeps : ∀ rate (g : Guaranteed) changed (g' : Guaranteed), g.InRange (fun _ => False) →
      g.update rate (.real p.defaultLowerBound) now = .ok (changed, g') →
      g'.InRange fun _ => False := by
    intro rate g changed g' own updated
    refine ⟨g'.rate.inRange, ?_⟩
    rcases Guaranteed.floor_of_updated updated with same | made
    · rw [same]
      exact own.floor
    · exact Throughput.isAllowed_of_isLimit sound.bound made
  have makes : ∀ rate g, Guaranteed.create (.real rate) (.real p.defaultLowerBound) now = .ok g →
      g.InRange fun _ => False := by
    intro rate g made
    exact ⟨g.rate.inRange,
      Throughput.isAllowed_of_isLimit sound.bound (Guaranteed.floor_of_create made)⟩
  have limit : ∀ rate, (t.withDefaults rate p.defaultLowerBound).lowerBound.IsLimit := by
    intro rate
    unfold withDefaults
    dsimp only
    split
    · exact sound.bound
    · exact inRange.bound
  have moved : ∀ rate : Rate, ∀ entry ∈ (moveUnnamed (explicitRates p.operations) rate
      p.defaultLowerBound now t.entries).2, entry.2.InRange fun _ => False := fun rate =>
    forall_moveUnnamed _ (keeps (.real rate.value)) t.entries inRange.entries
  have revises := t.revises_update p now
  generalize t.update p now = outcome at revises ⊢
  cases revises with
  | unshared => exact inRange
  | @stopped rate _ _ _ moves =>
    have old := moved rate
    rw [moves] at old
    exact ⟨inRange.capacity, Rate.inRange _, limit rate, old⟩
  | @interrupted rate _ entries _ _ _ moves takes =>
    have start := moved rate
    rw [moves] at start
    obtain ⟨old, -⟩ := forall_moveNamed t.maxOperations (explicitRates p.operations)
      (fun rate => keeps (.real rate)) makes { old := entries } start (by simp)
    rw [takes] at old
    exact ⟨inRange.capacity, Rate.inRange _, limit rate, old⟩
  | @finished rate _ entries _ _ moves takes =>
    have start := moved rate
    rw [moves] at start
    obtain ⟨old, new⟩ := forall_moveNamed t.maxOperations (explicitRates p.operations)
      (fun rate => keeps (.real rate)) makes { old := entries } start (by simp)
    rw [takes] at old new
    exact ⟨inRange.capacity, Rate.inRange _, limit rate, List.forall_mem_append.mpr ⟨old, new⟩⟩

private theorem InRange.seed (inRange : t.InRange) {g : Guaranteed}
    (made : Guaranteed.create (.real t.defaultRate.value) (.real t.lowerBound) now = .ok g) :
    g.InRange fun _ => False :=
  ⟨g.rate.inRange, Throughput.isAllowed_of_isLimit inRange.bound (Guaranteed.floor_of_create made)⟩

private theorem inRange_of_answer {given : Number → Prop} {g g' : Guaranteed} {traceId : Int}
    {status : SamplingStatus} (own : g.InRange given)
    (h : g.sample now traceId = .ok (status, g')) : g'.InRange given := by
  obtain ⟨granted, asked⟩ := Guaranteed.floor_of_sample h
  exact ⟨g'.rate.inRange, own.floor.of_ask asked⟩

private theorem forall_append {xs : List (String × Guaranteed)} {P : Guaranteed → Prop}
    (all : ∀ entry ∈ xs, P entry.2) {name : String} {g : Guaranteed} (own : P g) :
    ∀ entry ∈ xs ++ [(name, g)], P entry.2 := by
  intro entry m
  rcases List.mem_append.mp m with m | m
  · exact all entry m
  · rw [List.mem_singleton.mp m]
    exact own

private theorem InRange.of_sample {operation : String} {traceId : Int} {status : SamplingStatus}
    (inRange : t.InRange) (h : t.sample now operation traceId = .ok (status, t')) :
    t'.InRange := by
  rcases sample_cases h with ⟨g, g', found, answered, rfl⟩ | ⟨-, -, -, rfl⟩ |
    ⟨-, -, g, g', made, answered, rfl⟩
  · have own := inRange.entries _ (mem_of_find? found)
    have next := inRange_of_answer own answered
    exact ⟨inRange.capacity, inRange.rate, inRange.bound, forall_set inRange.entries next⟩
  · exact inRange
  · have next := inRange_of_answer (inRange.seed made) answered
    exact ⟨inRange.capacity, inRange.rate, inRange.bound, forall_append inRange.entries next⟩

private theorem InRange.enroll (inRange : t.InRange) (now : Number) (operation : String) :
    (t.enroll now operation).InRange := by
  unfold OperationTable.enroll
  split
  · exact inRange
  · split
    case h_1 g made =>
      exact ⟨inRange.capacity, inRange.rate, inRange.bound,
        forall_append inRange.entries (inRange.seed made)⟩
    case h_2 => exact inRange

private theorem one_le_of_positive {n : Number} (positive : n.le (.integer 0) = false) {k : Int}
    (whole : n.toInt? = some k) : 1 ≤ k := by
  have few : isFull n [] = true ↔ k ≤ (([] : List (String × Guaranteed)).length : Int) :=
    isFull_iff whole
  by_contra small
  have full : n.le (.integer 0) = true := few.mpr (by simp only [List.length_nil]; omega)
  rw [positive] at full
  cases full

private theorem inRange_of_create {maxOperations : Number} (sound : p.IsSound)
    (made : (create maxOperations p now).1 = .ok t) : t.InRange := by
  obtain ⟨positive, rate, changed, -, rfl⟩ := update_of_create made
  have empty : InRange ⟨maxOperations, rate, p.defaultLowerBound, []⟩ :=
    ⟨fun n whole => one_le_of_positive positive whole, rate.inRange, sound.bound, by simp⟩
  exact empty.update sound now

end OperationTable

namespace Sampler

/-- A sampler whose numbers are all in range, those of samplers within included. -/
def InRange (given : Number → Prop) : Sampler → Prop
  | const _ => True
  | probabilistic rate => rate.value.IsShare
  | rateLimiting t => t.IsAllowed given
  | guaranteed g => g.InRange given
  | perOperation t => t.InRange
  | remote _ _ delegate => delegate.InRange given

private theorem isLasting_inRange (given : Number → Prop) :
    Parts.IsLasting given ⟨Throughput.IsAllowed given, OperationTable.InRange⟩ where
  handed := Throughput.isAllowed_of_create
  limited := Throughput.isAllowed_of_isLimit
  asked := Throughput.IsAllowed.of_ask
  made := OperationTable.inRange_of_create
  sampled := OperationTable.InRange.of_sample
  enrolled := OperationTable.InRange.enroll
  updated := OperationTable.InRange.update

private theorem inRange_of_within {given : Number → Prop} {s : Sampler}
    (within : s.Within ⟨Throughput.IsAllowed given, OperationTable.InRange⟩) : s.InRange given := by
  induction s with
  | const => exact trivial
  | probabilistic rate => exact rate.inRange
  | guaranteed g => exact ⟨g.rate.inRange, within⟩
  | rateLimiting | perOperation => exact within
  | remote _ _ _ ih => exact ih within

end Sampler

/-- The samplers there can be: made by hand of any numbers, by settings or around another sampler,
and whatever questions, updates, polls of any source, replacements and closings make of them. The
limits handed in by hand or by settings are the given ones. -/
inductive Sampler.Reached (given : Number → Prop) : Sampler → Prop
  | const (decision : Bool) : Reached given (.const decision)
  | probabilistic {n : Number} {rate : Rate} : Rate.create n = .ok rate →
      Reached given (.probabilistic rate)
  | rateLimiting {limit now : Number} {t : Throughput} : given limit →
      Throughput.create limit now = .ok t → Reached given (.rateLimiting t)
  | guaranteed {rate bound now : Number} {g : Guaranteed} : given bound →
      Guaranteed.create rate bound now = .ok g → Reached given (.guaranteed g)
  | perOperation {medium : Medium} {v : Json} {p : OperationParameters} {n now : Number}
      {t : OperationTable} : Strategy.readParameters medium v = .ok p →
      (OperationTable.create n p now).1 = .ok t → Reached given (.perOperation t)
  | remote {control : RemoteControl} {watch : Watch} {d : Sampler} {r : RemoteSampler} :
      Reached given d → RemoteSampler.create control watch d = .ok r → Reached given r.toSampler
  | configured {settings : SamplerSettings} {service : Json} {metered : Bool} {h : Host}
      {s : Sampler} : given (.real settings.parameter) →
      (settings.createSampler service metered h).1 = .ok s → Reached given s
  | sampled {s : Sampler} (now : Number) (operation traceId : Json) : Reached given s →
      Reached given (s.sampleGiven now operation traceId).2
  | updated {g g' : Guaranteed} {rate bound : Json} {now : Number} {changed : Bool} :
      Reached given (.guaranteed g) → (∀ n, bound.number = .ok n → given n) →
      g.updateGiven rate bound now = .ok (changed, g') → Reached given (.guaranteed g')
  | revised {t : OperationTable} {medium : Medium} {v : Json} {p : OperationParameters}
      (now : Number) : Reached given (.perOperation t) → Strategy.readParameters medium v = .ok p →
      Reached given (.perOperation (t.update p now).table)
  | polled {r : RemoteSampler} (source : StrategySource) (own : Watch) (h : Host) :
      Reached given r.toSampler → Reached given (RemoteSampler.update own
        { r with control := { r.control with source } } h).2.1.toSampler
  | replaced {r : RemoteSampler} {s : Sampler} (watch : Watch) (h : Host) :
      Reached given r.toSampler → Reached given s →
      Reached given (r.replace watch s h).2.1.toSampler
  | closed {s : Sampler} (watch : Watch) (h : Host) : Reached given s →
      Reached given (s.close watch h).2.1
  /-- What becomes of a delegate becomes of it within the sampler around it. -/
  | within {control : RemoteControl} {watch : Watch} {d d' : Sampler} :
      Reached given (.remote control watch d) → Reached given d' →
      Reached given (.remote control watch d')

/-- What lasts, the buckets and tables within every sampler there can be have. -/
theorem Sampler.within_of_reached {given : Number → Prop} {parts : Parts}
    (lasting : parts.IsLasting given) {s : Sampler} (reached : s.Reached given) :
    s.Within parts := by
  induction reached with
  | const | probabilistic => trivial
  | rateLimiting handed made => exact lasting.handed handed made
  | guaranteed handed made => exact lasting.handed handed (Guaranteed.floor_of_create made)
  | perOperation read made => exact lasting.made (Strategy.isSound_of_readParameters read) made
  | remote _ made ih =>
    unfold RemoteSampler.create at made
    split at made
    · cases made
    · cases made
      exact ih
  | configured handed made => exact SamplerSettings.within_of_createSampler lasting handed made
  | sampled now operation traceId _ ih => exact within_sampleGiven lasting ih now _ _
  | @updated g g' _ _ _ _ _ handed went ih =>
    show parts.bucket g'.floor
    rcases Guaranteed.floor_of_updateGiven went with same | ⟨n, bound, made⟩
    · exact same ▸ ih
    · exact lasting.handed (handed n bound) made
  | revised now _ read ih => exact lasting.updated ih (Strategy.isSound_of_readParameters read) now
  | polled source own h _ ih =>
    refine RemoteSampler.within_update lasting ?_ own h
    exact ih
  | replaced watch h _ _ ih own =>
    refine RemoteSampler.within_replace ?_ watch own h
    exact ih
  | closed watch h _ ih => exact within_close ih watch h
  | within _ _ _ ih => exact ih

theorem Rate.toBinary64?_of_create {n : Number} {rate : Rate} (h : create n = .ok rate) :
    n.toBinary64? = some rate.value := by
  unfold create ofNumber at h
  cases place : n.toBinary64? with
  | none =>
    rw [place] at h
    cases h
  | some x =>
    rw [place] at h
    dsimp only at h
    split at h
    case h_1 share made =>
      unfold ofBinary64? at made
      split at made
      · cases made
        cases h
        rfl
      · cases made
    case h_2 => cases h

/-- In every sampler that there can be, shares lie between zero and one, tables have room for an
operation, and limits are no less than zero, but for limits that are no number and were given by
hand. Any other number is refused. -/
theorem inRange_of_reached (given : Number → Prop) (s : Sampler) (reached : s.Reached given) :
    s.InRange given ∧ ∀ n : Number,
      ((∀ x, n.toBinary64? = some x → ¬ x.IsShare) → ∃ f, Rate.create n = .error f) ∧
      (n.lt (.integer 0) = true → ∀ now, ∃ f, Throughput.create n now = .error f) ∧
      (n.le (.integer 0) = true → ∀ p now, ∃ f, (OperationTable.create n p now).1 = .error f) := by
  constructor
  · exact Sampler.inRange_of_within
      (Sampler.within_of_reached (Sampler.isLasting_inRange given) reached)
  · intro n
    refine ⟨fun outside => ?_, fun below now => ?_, fun few p now => ?_⟩
    · cases made : Rate.create n with
      | error f => exact ⟨f, rfl⟩
      | ok rate => exact absurd rate.inRange (outside _ (Rate.toBinary64?_of_create made))
    · refine ⟨.failure (.negativeLimit n), ?_⟩
      unfold Throughput.create
      rw [below, if_pos rfl]
    · refine ⟨.failure (.noOperations n), ?_⟩
      unfold OperationTable.create
      rw [few, if_pos rfl]

/-- Settings that ask for no number of traces per second in particular. -/
def limitless : SamplerSettings := { choice := .rateLimiting, parameter := .nan }

theorem nan_in_force_by_hand_alone :
    (∃ t, (limitless.createSampler .null false {}).1 = .ok (.rateLimiting t) ∧ t.limit = .nan ∧
      (Sampler.rateLimiting t).InRange (· = .real .nan)) ∧
    Sampler.InRange (fun _ => False) (RemoteSampler.update {}
      (RemoteSampler.aboutToHalve (.const true)) {}).2.1.toSampler := by
  constructor
  · have made : (limitless.createSampler .null false {}).1 = .ok (.rateLimiting
        ⟨.nan, .full .nan (Binary64.greatest .one .nan) (.integer 0)⟩) := rfl
    have handed : (· = Number.real .nan) (Number.real limitless.parameter) := rfl
    exact ⟨_, made, rfl, (inRange_of_reached _ _ (.configured handed made)).1⟩
  · have built : RemoteSampler.create (RemoteSampler.aboutToHalve (.const true)).control {}
        (.const true) = .ok (RemoteSampler.aboutToHalve (.const true)) := rfl
    have begun : Sampler.Reached (fun _ => False) _ := .remote (.const true) built
    exact (inRange_of_reached (fun _ => False) _ (.polled _ {} {} begun)).1

end Tracing
