import Tracing.Proofs.Number.Exactness
import Tracing.Proofs.Sampling.Range
/-!
A share with a floor is two samplers beside each other, joined by "or". The floor is asked at every
question and made anew only when its number changes, so its credits know nothing of shares, traces
or operations.
-/

set_option autoImplicit false
set_option relaxedAutoImplicit false

namespace Tracing

/-- Whether a number given again is the one in force, which is kept as a binary number. -/
def Number.isStill (n inForce : Number) : Bool := inForce.toBinary64?.any fun x => n.eq (.real x)

def Number.succeededBy (inForce n : Number) : Number := if n.isStill inForce then inForce else n

/-- An integer reading of a clock, short enough that time can be counted from it. -/
def Number.IsTick (n : Number) : Prop := ∃ k : Int, n = .integer k ∧ k.natAbs < 2 ^ 1022

private theorem TokenBucket.exists_check_of_isTick {b : TokenBucket Binary64} {now : Number}
    (past : b.lastTick.IsTick) (tick : now.IsTick) (cost : Binary64) :
    ∃ outcome, b.check now cost = some outcome := by
  obtain ⟨j, ticked, shortPast⟩ := past
  obtain ⟨k, rfl, short⟩ := tick
  have twice : 2 ^ 1023 = 2 ^ 1022 + 2 ^ 1022 := by rw [← Nat.two_mul, ← Nat.pow_succ']
  have between : (k - j).natAbs < 2 ^ 1023 := by
    rw [twice]
    exact (Int.natAbs_sub_le k j).trans_lt (Nat.add_lt_add short shortPast)
  have elapsed : ∃ d : Int, (Number.integer k).since? b.lastTick = some (.integer d) ∧
      d.natAbs < 2 ^ 1023 := by
    rw [ticked]
    unfold Number.since? Number.sub? Number.toInt?
    by_cases forward : (Number.integer 0).lt (.integer (k - j)) = true
    · exact ⟨k - j, by simp [forward], between⟩
    · exact ⟨0, by simp [forward], (Nat.zero_le _).trans_lt between⟩
  obtain ⟨d, counted, small⟩ := elapsed
  obtain ⟨x, converted⟩ := Binary64.exists_ofInt? small
  have seconds : Credit.seconds? (K := Binary64) (.integer d) = some (x.divNat 1000000000) := by
    show (Binary64.ofInt? d).map _ = _
    rw [converted]
    rfl
  unfold check accrue
  rw [counted, Option.bind_some, seconds]
  exact ⟨_, rfl⟩

namespace Throughput

/-- A sampler after a question. One that is not answered changes nothing. -/
def after (t : Throughput) (now : Number) : Throughput :=
  match t.sample now with
  | .ok (_, t') => t'
  | .error _ => t

/-- A sampler after a question at each of some readings. -/
def askedAt (t : Throughput) (readings : List Number) : Throughput := readings.foldl after t

variable {t : Throughput}

private theorem after_of_ask_ok {now : Number} {granted : Bool} {t' : Throughput}
    (asked : t.ask now = .ok (granted, t')) : t.after now = t' := by
  unfold after sample
  rw [asked]
  rfl

private theorem after_of_ask_error {now : Number} {f : Fault} (asked : t.ask now = .error f) :
    t.after now = t := by
  unfold after sample
  rw [asked]
  rfl

private theorem limit_after (t : Throughput) (now : Number) : (t.after now).limit = t.limit := by
  cases asked : t.ask now with
  | error f => rw [after_of_ask_error asked]
  | ok answer =>
    obtain ⟨granted, t'⟩ := answer
    rw [after_of_ask_ok asked]
    exact limit_of_ask asked

private theorem limit_askedAt (t : Throughput) (readings : List Number) :
    (t.askedAt readings).limit = t.limit := by
  induction readings generalizing t with
  | nil => rfl
  | cons now rest ih => exact (ih (t.after now)).trans (t.limit_after now)

private theorem lastTick_after (t : Throughput) (now : Number) :
    (t.after now).bucket.lastTick = now ∨ t.after now = t := by
  cases asked : t.ask now with
  | error f => exact .inr (after_of_ask_error asked)
  | ok answer =>
    obtain ⟨granted, t'⟩ := answer
    obtain ⟨bucket, checked, rfl⟩ := check_of_ask asked
    rw [after_of_ask_ok asked]
    exact .inl (TokenBucket.frame_of_check checked).2

private theorem lastTick_askedAt (t : Throughput) (readings : List Number) :
    (t.askedAt readings).bucket.lastTick ∈ t.bucket.lastTick :: readings := by
  induction readings generalizing t with
  | nil => exact List.mem_singleton_self _
  | cons now rest ih =>
    rcases List.mem_cons.mp (ih (t.after now)) with last | later
    · show ((t.after now).askedAt rest).bucket.lastTick ∈ _
      rw [last]
      rcases t.lastTick_after now with moved | same
      · simp [moved]
      · simp [same]
    · exact List.mem_cons_of_mem _ (List.mem_cons_of_mem _ later)

private theorem sample_of_isTick {now : Number} (past : t.bucket.lastTick.IsTick)
    (tick : now.IsTick) :
    ∃ status t', t.sample now = .ok (status, t') := by
  obtain ⟨outcome, checked⟩ := TokenBucket.exists_check_of_isTick past tick .one
  unfold sample ask
  rw [checked]
  exact ⟨_, _, rfl⟩

end Throughput

namespace Guaranteed

/-- What is called on a share with a floor, with the reading of the clock at the call. -/
inductive Call where
  | sample (now : Number) (operation : String) (traceId : Int)
  | update (now rate bound : Number)

/-- The sampler a call leaves. A question that is not answered and an update that is refused change
nothing. -/
def after (g : Guaranteed) : Call → Guaranteed
  | .sample now _ traceId =>
    match g.sample now traceId with
    | .ok (_, g') => g'
    | .error _ => g
  | .update now rate bound =>
    match g.update rate bound now with
    | .ok (_, g') => g'
    | .error _ => g

def run (g : Guaranteed) (calls : List Call) : Guaranteed := calls.foldl after g

/-- Whether a call, if it is an update, succeeds. -/
def Takes (g : Guaranteed) : Call → Prop
  | .sample .. => True
  | .update now rate bound => ∃ changed g', g.update rate bound now = .ok (changed, g')

def Succeeds (g : Guaranteed) : List Call → Prop
  | [] => True
  | call :: rest => g.Takes call ∧ (g.after call).Succeeds rest

def Call.now : Call → Number
  | sample now _ _ => now
  | update now _ _ => now

def Call.rate? : Call → Option Number
  | sample .. => none
  | update _ rate _ => some rate

/-- What a floor hears of a call: that there was a question, or which limit was given. -/
inductive Beat where
  | question (now : Number)
  | limit (now bound : Number)

def Call.beat : Call → Beat
  | sample now _ _ => .question now
  | update now _ bound => .limit now bound

/-- The share in force after a run that began with another. -/
def rateInForce (first : Number) (calls : List Call) : Number :=
  (calls.filterMap Call.rate?).foldl Number.succeededBy first

/-- The limit in force, the reading at which it was put in force, and the readings at which there
was a question since. -/
structure Tenure where
  bound : Number
  since : Number
  asked : List Number := []

namespace Tenure

/-- A limit that is still in force stays with its questions; any other begins without. -/
def after (t : Tenure) : Beat → Tenure
  | .question now => { t with asked := t.asked ++ [now] }
  | .limit now bound => if bound.isStill t.bound then t else { bound, since := now }

def run (t : Tenure) (beats : List Beat) : Tenure := beats.foldl after t

/-- A sampler of the limit alone, made when that was put in force and asked at every question
since. -/
def floor (t : Tenure) : Except Fault Throughput :=
  (Throughput.create t.bound t.since).map (·.askedAt t.asked)

end Tenure

/-- What two samplers on their own come to: the answer of the share where it keeps the trace, else
the decision of the floor, signed as one of the floor with the share for its number. -/
def joined (share : Rate) (floor : Throughput) (now : Number) (operation : String)
    (traceId : Int) : Except Fault SamplingStatus := do
  let (byShare, _) ← (Sampler.probabilistic share).sample now operation traceId
  let (byFloor, _) ← (Sampler.rateLimiting floor).sample now operation traceId
  return if byShare.sampled then .signed .probabilistic (.real share.value) true
    else .signed .lowerBound (.real share.value) byFloor.sampled

/-- A sampler that runs with a share and with the floor of a tenure. -/
structure Stands (g : Guaranteed) (rate : Number) (t : Tenure) : Prop where
  rate : Rate.create rate = .ok g.rate
  floor : t.floor = .ok g.floor

section Steps

variable {g : Guaranteed} {rate : Number} {t : Tenure}

private theorem stands_of_create {bound start : Number} (made : create rate bound start = .ok g) :
    g.Stands rate ⟨bound, start, []⟩ := by
  obtain ⟨share, shared, made⟩ := ok_of_bind made
  obtain ⟨floor, limited, made⟩ := ok_of_bind made
  cases made
  refine ⟨shared, ?_⟩
  unfold Tenure.floor
  rw [limited]
  rfl

private theorem Stands.isStill_rate (stands : g.Stands rate t) (n : Number) :
    n.isStill rate = n.eq (.real g.rate.value) := by
  unfold Number.isStill
  rw [Rate.toBinary64?_of_create stands.rate]
  rfl

private theorem Stands.isStill_bound (stands : g.Stands rate t) (n : Number) :
    n.isStill t.bound = n.eq (.real g.floor.limit) := by
  obtain ⟨first, made, same⟩ := ok_of_map stands.floor
  have limit : g.floor.limit = first.limit := by
    rw [← same]
    exact first.limit_askedAt t.asked
  unfold Number.isStill
  rw [(Throughput.parts_of_create made).2.1, limit]
  rfl

/-- A question moves the floor as it would on its own, whatever the share makes of the trace. -/
theorem after_sample (g : Guaranteed) (now : Number) (operation : String) (traceId : Int) :
    g.after (.sample now operation traceId) = ⟨g.rate, g.floor.after now⟩ := by
  unfold after sample
  dsimp only
  cases asked : g.floor.ask now with
  | error f =>
    rw [Throughput.after_of_ask_error asked]
    rfl
  | ok answer =>
    obtain ⟨granted, floor⟩ := answer
    rw [Throughput.after_of_ask_ok asked]
    rfl

private theorem Stands.sample (stands : g.Stands rate t) (now : Number) (operation : String)
    (traceId : Int) :
    (g.after (.sample now operation traceId)).Stands rate (t.after (.question now)) := by
  obtain ⟨first, made, same⟩ := ok_of_map stands.floor
  have longer : first.askedAt (t.asked ++ [now]) = g.floor.after now := by
    unfold Throughput.askedAt at same ⊢
    rw [List.foldl_append, same]
    rfl
  rw [after_sample]
  refine ⟨stands.rate, ?_⟩
  show (Throughput.create t.bound t.since).map _ = _
  rw [made, ← longer]
  rfl

private theorem Stands.update (stands : g.Stands rate t) {now newRate bound : Number}
    {changed : Bool}
    {g' : Guaranteed} (updated : g.update newRate bound now = .ok (changed, g')) :
    g'.Stands (rate.succeededBy newRate) (t.after (.limit now bound)) := by
  obtain ⟨-, share, floor⟩ := parts_of_ok updated
  rw [← stands.isStill_rate] at share
  rw [← stands.isStill_bound] at floor
  constructor
  · unfold Number.succeededBy
    split
    case isTrue still =>
      rw [if_pos still] at share
      rw [share]
      exact stands.rate
    case isFalse other =>
      rw [if_neg other] at share
      exact share
  · unfold Tenure.after
    dsimp only
    split
    case isTrue still =>
      rw [if_pos still] at floor
      rw [floor]
      exact stands.floor
    case isFalse other =>
      rw [if_neg other] at floor
      unfold Tenure.floor
      rw [floor]
      rfl

private theorem Stands.after (stands : g.Stands rate t) {call : Call} (takes : g.Takes call) :
    (g.after call).Stands (rateInForce rate [call]) (t.after call.beat) := by
  cases call with
  | sample now operation traceId => exact stands.sample now operation traceId
  | update now newRate bound =>
    obtain ⟨changed, g', updated⟩ := takes
    have moved : g.after (.update now newRate bound) = g' := by
      simp only [Guaranteed.after, updated]
    rw [moved]
    exact stands.update updated

private theorem rateInForce_cons (first : Number) (call : Call) (rest : List Call) :
    rateInForce first (call :: rest) = rateInForce (rateInForce first [call]) rest := by
  cases call <;> rfl

/-- Whatever happens to a sampler, it runs with the share given last and with a floor that was made
for the limit given last and asked ever since. -/
private theorem Stands.run (stands : g.Stands rate t) {calls : List Call}
    (succeeds : g.Succeeds calls) :
    (g.run calls).Stands (rateInForce rate calls) (t.run (calls.map Call.beat)) := by
  induction calls generalizing g rate t with
  | nil => exact stands
  | cons call rest ih =>
    obtain ⟨takes, succeeds⟩ := succeeds
    rw [rateInForce_cons]
    exact ih (stands.after takes) succeeds

private theorem sample_eq_joined (g : Guaranteed) (now : Number) (operation : String)
    (traceId : Int) :
    ((Sampler.guaranteed g).sample now operation traceId).map Prod.fst =
      joined g.rate g.floor now operation traceId := by
  unfold joined Sampler.sample sample Throughput.sample
  cases g.floor.ask now with
  | error f => rfl
  | ok answer =>
    show Except.ok (if g.rate.covers traceId then g.rate.sample traceId else _) =
      Except.ok (if g.rate.covers traceId then _ else _)
    cases kept : g.rate.covers traceId with
    | false => rfl
    | true =>
      show Except.ok (SamplingStatus.signed _ _ (g.rate.covers traceId)) = _
      rw [kept]
      rfl

end Steps

section Runs

variable {rate bound start : Number} {g : Guaranteed} {calls : List Call}

private theorem lastTick_of_tenure {t : Tenure} {floor : Throughput} (h : t.floor = .ok floor) :
    floor.bucket.lastTick ∈ t.since :: t.asked := by
  obtain ⟨first, made, rfl⟩ := ok_of_map h
  have begun := first.lastTick_askedAt t.asked
  rw [Throughput.lastTick_of_create made] at begun
  exact begun

private theorem readings_of_tenure {P : Number → Prop} {t : Tenure}
    (own : ∀ n ∈ t.since :: t.asked, P n)
    (calls : List Call) (all : ∀ call ∈ calls, P call.now) :
    ∀ n ∈ (t.run (calls.map Call.beat)).since :: (t.run (calls.map Call.beat)).asked, P n := by
  induction calls generalizing t with
  | nil => exact own
  | cons call rest ih =>
    obtain ⟨here, all⟩ := List.forall_mem_cons.mp all
    refine ih (t := t.after call.beat) ?_ all
    cases call with
    | sample now operation traceId =>
      obtain ⟨since, asked⟩ := List.forall_mem_cons.mp own
      refine List.forall_mem_cons.mpr ⟨since, List.forall_mem_append.mpr ⟨asked, ?_⟩⟩
      exact List.forall_mem_singleton.mpr here
    | update now newRate newBound =>
      show ∀ n ∈ (t.after (.limit now newBound)).since :: (t.after (.limit now newBound)).asked, P n
      unfold Tenure.after
      dsimp only
      split
      · exact own
      · exact List.forall_mem_singleton.mpr here

/-- After any run whose updates succeed, a share with a floor answers every question as two samplers
do that know nothing of each other: one of the share in force, and one of the limit in force that
was made when that was put in force and asked at every question since. At readings of a clock there
is an answer. Nothing of the floor depends on which shares were given, which traces and operations
were asked for, and which of them the share kept. -/
theorem sample_run_eq_joined (made : create rate bound start = .ok g)
    (succeeds : g.Succeeds calls) (now : Number) (operation : String) (traceId : Int) :
    ∃ share floor, Rate.create (rateInForce rate calls) = .ok share ∧
      (Tenure.run ⟨bound, start, []⟩ (calls.map Call.beat)).floor = .ok floor ∧
      ((Sampler.guaranteed (g.run calls)).sample now operation traceId).map Prod.fst =
        joined share floor now operation traceId ∧
      ((∀ n ∈ start :: now :: calls.map Call.now, n.IsTick) →
        ∃ status, joined share floor now operation traceId = .ok status) ∧
      ∀ rate' g' calls', create rate' bound start = .ok g' → g'.Succeeds calls' →
        calls'.map Call.beat = calls.map Call.beat → (g'.run calls').floor = floor := by
  have stands := (stands_of_create made).run succeeds
  refine ⟨(g.run calls).rate, (g.run calls).floor, stands.rate, stands.floor,
    sample_eq_joined _ now operation traceId, ?_, ?_⟩
  · intro ticks
    obtain ⟨begun, ticks⟩ := List.forall_mem_cons.mp ticks
    obtain ⟨asking, others⟩ := List.forall_mem_cons.mp ticks
    have readings := readings_of_tenure (t := ⟨bound, start, []⟩)
      (List.forall_mem_singleton.mpr begun) calls (List.forall_mem_map.mp others)
    have past := readings _ (lastTick_of_tenure stands.floor)
    obtain ⟨status, t', answered⟩ := Throughput.sample_of_isTick past asking
    unfold joined Sampler.sample
    rw [answered]
    exact ⟨_, rfl⟩
  · intro rate' g' calls' made' succeeds' alike
    have stands' := (stands_of_create made').run succeeds'
    have same := stands'.floor
    rw [alike, stands.floor] at same
    exact (Except.ok.inj same).symm

end Runs

/-- Questions about one trace around updates that give only the share another number. -/
def flickering : List Call :=
  [.sample (.integer 0) "cart" 7, .update (.integer 1) (.real .one) (.real .one),
    .sample (.integer 2) "cart" 7, .update (.integer 3) (.real (.zero false)) (.real .one)]

/-- A floor of one trace a second that was spent on the first question is still empty at the third,
though there were two new shares meanwhile. -/
theorem floor_spent_throughout : ∃ g, create (.integer 0) (.integer 1) (.integer 0) = .ok g ∧
    g.Succeeds flickering ∧
    ((Sampler.guaranteed (g.run flickering)).sample (.integer 4) "home" 8).map Prod.fst =
      .ok (.signed .lowerBound (.real (.zero false)) false) := by
  have zero : (Binary64.zero false).IsShare := by
    unfold Binary64.IsShare
    decide +kernel
  have one : Binary64.one.IsShare := by
    unfold Binary64.IsShare
    decide +kernel
  obtain ⟨g, made⟩ : ∃ g, create (.integer 0) (.integer 1) (.integer 0) = .ok g := ⟨_, rfl⟩
  have succeeds : g.Succeeds flickering := by
    obtain ⟨changed, g', first, -⟩ := follows_of_update
      (g.after (.sample (.integer 0) "cart" 7)) one one.isLimit (.integer 1)
    obtain ⟨changed', g'', second, -⟩ := follows_of_update
      (((g.after (.sample (.integer 0) "cart" 7)).after
        (.update (.integer 1) (.real .one) (.real .one))).after (.sample (.integer 2) "cart" 7))
      zero one.isLimit (.integer 3)
    exact ⟨trivial, ⟨changed, g', first⟩, trivial, ⟨changed', g'', second⟩, trivial⟩
  obtain ⟨share, floor, shared, asked, answered, -, -⟩ :=
    sample_run_eq_joined made succeeds (.integer 4) "home" 8
  refine ⟨g, made, succeeds, ?_⟩
  have none : Rate.create (rateInForce (.integer 0) flickering) = .ok ⟨.zero false, zero⟩ := rfl
  have spent : (floor.sample (.integer 4)).toOption.map (·.1.sampled) = some false := by
    cases asked
    decide +kernel
  rw [answered]
  cases none.symm.trans shared
  unfold joined Sampler.sample
  cases last : floor.sample (.integer 4) with
  | error f =>
    rw [last] at spent
    cases spent
  | ok answer =>
    rw [last] at spent
    have refused : answer.1.sampled = false := Option.some_inj.mp spent
    show Except.ok (SamplingStatus.signed _ _ answer.1.sampled) = _
    rw [refused]

end Guaranteed

end Tracing
