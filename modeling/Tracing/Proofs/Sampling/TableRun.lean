import Tracing.Proofs.Sampling.TableUpdate
/-!
Runs of a table. Operations enter it by questions and by updates; whichever way they came, their
entries have the numbers of the parameters applied last, and the table never outgrows its capacity.
-/

set_option autoImplicit false
set_option relaxedAutoImplicit false

namespace Tracing

theorem Binary64.IsLimit.of_eq {x y : Binary64} (h : y.IsLimit) (same : x.eq y = true) :
    x.IsLimit := by
  obtain ⟨a, place, above⟩ := isLimit_iff.mp h
  have own := extended?_eq_of_eq same
  exact isLimit_iff.mpr ⟨a, own.trans place, above⟩

theorem Binary64.eq_trans {x y z : Binary64} (h : x.eq y = true) (h' : y.eq z = true) :
    x.eq z = true := by
  obtain ⟨a, hx, hy⟩ := eq_iff.mp h
  have place : z.extended? = some a := (extended?_eq_of_eq h').symm.trans hy
  exact eq_iff.mpr ⟨a, hx, place⟩

private theorem Binary64.exact_not (s : Bool) (m : Nat) (e : Int) : exact
    (!s) m e = -exact s m e := by
  unfold exact
  by_cases zero : m = 0
  · simp [zero]
  · cases s <;> by_cases whole : 0 ≤ e <;> simp [zero, whole, Rat.neg_mkRat]

private theorem Number.since?_self (now : Number) : now.since? now = some (.integer 0) := by
  cases now with
  | integer n => simp [since?, sub?, toInt?]
  | truth b => cases b <;> rfl
  | real x =>
    have none : (Number.integer 0).lt (.real (x - x)) = false := by
      cases x with
      | nan => rfl
      | infinite s => cases s <;> rfl
      | finite s m e h =>
        have cancel : Binary64.exact s m e + Binary64.exact (!s) m e = 0 := by
          rw [Binary64.exact_not]
          exact add_neg_cancel _
        have zero : (Binary64.finite s m e h) - (Binary64.finite s m e h) =
            Binary64.ofRat 0 (s && !s) := by
          show Binary64.ofRat (Binary64.exact s m e + Binary64.exact (!s) m e) (s && !s) = _
          rw [cancel]
        rw [zero]
        cases s <;> decide
    simp [since?, sub?, toInt?, toBinary64?, none]

namespace Throughput

variable {t t' : Throughput} {now : Number} {granted : Bool}

/-- A question that is answered is a check of the bucket for one credit. -/
theorem check_of_ask (h : t.ask now = .ok (granted, t')) :
    ∃ bucket, t.bucket.check now .one = some (granted, bucket) ∧ t' = { t with bucket } := by
  unfold ask at h
  split at h
  · cases h
  case h_2 bucket checked =>
    cases h
    exact ⟨bucket, checked, rfl⟩

theorem limit_of_ask (h : t.ask now = .ok (granted, t')) : t'.limit = t.limit := by
  obtain ⟨bucket, -, rfl⟩ := check_of_ask h
  rfl

theorem lastTick_of_create {limit : Number} (h : create limit now = .ok t) :
    t.bucket.lastTick = now := by
  rw [(parts_of_create h).2.2]
  rfl

private theorem ask_of_create {limit : Number} (h : create limit now = .ok t) :
    ∃ granted t', t.ask now = .ok (granted, t') := by
  have ticked := lastTick_of_create h
  have instant : now.since? t.bucket.lastTick = some (.integer 0) := by
    rw [ticked]
    exact Number.since?_self now
  have counted : ∃ elapsed : Binary64, Credit.seconds? (.integer 0) = some elapsed :=
    ⟨_, rfl⟩
  obtain ⟨elapsed, seconds⟩ := counted
  unfold ask TokenBucket.check TokenBucket.accrue
  rw [instant, Option.bind_some, seconds]
  exact ⟨_, _, rfl⟩

end Throughput

namespace Guaranteed

variable {g g' : Guaranteed} {now : Number} {traceId : Int} {status : SamplingStatus}

theorem parts_of_sample (h : g.sample now traceId = .ok (status, g')) :
    g'.rate = g.rate ∧ g'.floor.limit = g.floor.limit := by
  obtain ⟨answer, asked, same⟩ := ok_of_map h
  cases same
  exact ⟨rfl, Throughput.limit_of_ask asked⟩

private theorem sample_of_create {rate bound : Number} (h : create rate bound now = .ok g)
    (traceId : Int) : ∃ status g', g.sample now traceId = .ok (status, g') := by
  obtain ⟨share, -, h⟩ := ok_of_bind h
  obtain ⟨floor, limited, h⟩ := ok_of_bind h
  cases h
  obtain ⟨granted, floor', asked⟩ := Throughput.ask_of_create limited
  unfold sample
  rw [asked]
  exact ⟨_, _, rfl⟩

private theorem Follows.of_sample {rate bound : Binary64} (follows : g.Follows rate bound)
    (h : g.sample now traceId = .ok (status, g')) : g'.Follows rate bound := by
  obtain ⟨sameRate, sameBound⟩ := parts_of_sample h
  constructor
  · rw [sameRate]
    exact follows.rate
  · rw [sameBound]
    exact follows.bound

end Guaranteed

namespace OperationTable

/-- The operations in a table, in the order in which they entered. -/
def names (t : OperationTable) : List String := t.entries.map Prod.fst

/-- What is called on a table, with the reading of the clock at the call. -/
inductive Call where
  | sample (now : Number) (operation : String) (traceId : Int)
  | update (now : Number) (p : OperationParameters)

/-- The table a call leaves. A question that is not answered changes nothing. -/
def after (t : OperationTable) : Call → OperationTable
  | .sample now operation traceId =>
    match t.sample now operation traceId with
    | .ok (_, t') => t'
    | .error _ => t
  | .update now p => (t.update p now).table

def run (t : OperationTable) (calls : List Call) : OperationTable := calls.foldl after t

/-- Whether a call, if it is an update, goes through. -/
def Takes (t : OperationTable) : Call → Prop
  | .sample .. => True
  | .update now p => ∃ changed, (t.update p now).result = .ok changed

/-- Whether all updates of a run go through. -/
def Succeeds (t : OperationTable) : List Call → Prop
  | [] => True
  | call :: rest => t.Takes call ∧ (t.after call).Succeeds rest

def inForceAfter (p : OperationParameters) : Call → OperationParameters
  | .sample .. => p
  | .update _ q => q

/-- The parameters that a run applies last. -/
def inForce (first : OperationParameters) (calls : List Call) : OperationParameters :=
  calls.foldl inForceAfter first

section Calls

variable {t t' : OperationTable} {now : Number} {operation : String} {traceId : Int}

/-- What an answer was given by: the entry of the operation, the default rate of a full table, or
an entry that was made for the question. -/
theorem sample_cases {status : SamplingStatus}
    (h : t.sample now operation traceId = .ok (status, t')) :
    (∃ g g', find? operation t.entries = some g ∧ g.sample now traceId = .ok (status, g') ∧
        t' = { t with entries := set operation g' t.entries }) ∨
      (find? operation t.entries = none ∧ isFull t.maxOperations t.entries = true ∧
        status = t.defaultRate.sample traceId ∧ t' = t) ∨
      find? operation t.entries = none ∧ isFull t.maxOperations t.entries = false ∧
        ∃ g g', Guaranteed.create (.real t.defaultRate.value) (.real t.lowerBound) now = .ok g ∧
          g.sample now traceId = .ok (status, g') ∧
          t' = { t with entries := t.entries ++ [(operation, g')] } := by
  unfold sample at h
  cases there : find? operation t.entries with
  | some g =>
    rw [there] at h
    obtain ⟨answer, answered, same⟩ := ok_of_map h
    cases same
    exact .inl ⟨g, _, rfl, answered, rfl⟩
  | none =>
    rw [there] at h
    dsimp only at h
    cases full : isFull t.maxOperations t.entries with
    | true =>
      rw [full] at h
      cases h
      exact .inr (.inl ⟨rfl, rfl, rfl, rfl⟩)
    | false =>
      rw [full] at h
      obtain ⟨g, created, h⟩ := ok_of_bind h
      obtain ⟨⟨status', g'⟩, answered, h⟩ := ok_of_bind h
      cases h
      exact .inr (.inr ⟨rfl, rfl, g, g', created, answered, rfl⟩)

private theorem frame_of_sample {status : SamplingStatus}
    (h : t.sample now operation traceId = .ok (status, t')) :
    t'.maxOperations = t.maxOperations ∧ t'.defaultRate = t.defaultRate ∧
      t'.lowerBound = t.lowerBound ∧
      (t'.names = t.names ∨ operation ∉ t.names ∧ isFull t.maxOperations t.entries = false ∧
        t'.names = t.names ++ [operation]) := by
  rcases sample_cases h with ⟨g, g', -, -, rfl⟩ | ⟨-, -, -, rfl⟩ |
    ⟨absent, room, g, g', -, -, rfl⟩
  · exact ⟨rfl, rfl, rfl, .inl (names_set g')⟩
  · exact ⟨rfl, rfl, rfl, .inl rfl⟩
  · refine ⟨rfl, rfl, rfl, .inr ⟨find?_eq_none_iff.mp absent, room, ?_⟩⟩
    simp [names]

private theorem prefix_names_after (call : Call) (takes : t.Takes call) :
    t.names <+: (t.after call).names := by
  cases call with
  | sample now operation traceId =>
    unfold after
    dsimp only
    split
    case h_1 answered =>
      obtain ⟨-, -, -, same | ⟨-, -, longer⟩⟩ := frame_of_sample answered
      · exact same ▸ List.prefix_refl _
      · exact longer ▸ List.prefix_append _ _
    case h_2 => exact List.prefix_refl _
  | update now p =>
    obtain ⟨changed, went⟩ := takes
    obtain ⟨fresh, updated⟩ := updated_of_update went
    have longer : (t.update p now).table.names = t.names ++ fresh.map Prod.fst := updated.names
    show t.names <+: (t.update p now).table.names
    exact longer ▸ List.prefix_append _ _

private theorem run_append (earlier later : List Call) :
    t.run (earlier ++ later) = (t.run earlier).run later :=
  List.foldl_append

private theorem Succeeds.of_append {earlier later : List Call} (h : t.Succeeds (earlier ++ later)) :
    t.Succeeds earlier ∧ (t.run earlier).Succeeds later := by
  induction earlier generalizing t with
  | nil => exact ⟨trivial, h⟩
  | cons call rest ih =>
    obtain ⟨takes, rest⟩ := h
    obtain ⟨first, second⟩ := ih rest
    exact ⟨⟨takes, first⟩, second⟩

private theorem prefix_names_run (calls : List Call) (succeeds : t.Succeeds calls) :
    t.names <+: (t.run calls).names := by
  induction calls generalizing t with
  | nil => exact List.prefix_refl _
  | cons call rest ih =>
    obtain ⟨takes, succeeds⟩ := succeeds
    exact (prefix_names_after call takes).trans (ih succeeds)

end Calls

/-- A table of distinct operations for a number of them. -/
structure IsProper (t : OperationTable) : Prop where
  number : t.maxOperations.extended? ≠ none
  distinct : t.names.Nodup

/-- A table in which parameters are in force: all its numbers are theirs, and the operations they
name are in it unless there is no room for more. -/
structure Conforms (t : OperationTable) (p : OperationParameters) : Prop where
  proper : t.IsProper
  limit : p.defaultLowerBound.IsLimit
  follows : t.Follows p
  covered : ∀ name ∈ p.operations.map Prod.fst,
    name ∈ t.names ∨ hasRoom t.maxOperations t.entries = false

section Conforming

variable {t t' : OperationTable} {p : OperationParameters} {now : Number}

private theorem isFull_eq_not_hasRoom {maxOperations : Number}
    (number : maxOperations.extended? ≠ none)
    (entries : List (String × Guaranteed)) :
    isFull maxOperations entries = !hasRoom maxOperations entries := by
  obtain ⟨a, place⟩ := Option.ne_none_iff_exists'.mp number
  obtain ⟨b, size⟩ : ∃ b, (Number.integer entries.length).extended? = some b := ⟨_, rfl⟩
  simp only [isFull, hasRoom, Number.le, Number.lt, Number.eq, place, size]
  rcases Extended.blt_trichotomy a b with below | rfl | above
  · simp [below, Extended.blt_asymm below]
  · simp [Extended.blt_irrefl]
  · have differ : a ≠ b := by
      rintro rfl
      simp [Extended.blt_irrefl] at above
    simp [above, Extended.blt_asymm above, differ]

private theorem rateOf_of_not_mem {name : String} (unnamed : name ∉ p.operations.map Prod.fst) :
    p.rateOf name = p.defaultRate := by
  have absent : (p.operations.reverse.lookup name) = none := by
    rw [← names_explicitRates, mem_keys_iff, lookup_explicitRates] at unnamed
    exact Option.not_isSome_iff_eq_none.mp unnamed
  rw [OperationParameters.rateOf, absent, Option.getD_none]

theorem Updated.nodup_names {fresh : List (String × Guaranteed)}
    (updated : Updated t p now t' fresh) (distinct : t.names.Nodup) : t'.names.Nodup := by
  have longer : t'.names = t.names ++ fresh.map Prod.fst := updated.names
  rw [longer]
  refine List.nodup_append.mpr ⟨distinct, updated.distinct, ?_⟩
  rintro name there other again rfl
  obtain ⟨entry, m, rfl⟩ := List.mem_map.mp again
  obtain ⟨-, absent, -⟩ := updated.created entry m
  exact find?_eq_none_iff.mp absent there

/-- A successful update puts its parameters in force, whatever numbers were there before. -/
theorem Updated.conforms {fresh : List (String × Guaranteed)}
    (updated : Updated t p now t' fresh) (proper : t.IsProper)
    (limit : p.defaultLowerBound.IsLimit) : t'.Conforms p := by
  have single := updated.nodup_names proper.distinct
  have number : t'.maxOperations.extended? ≠ none := updated.capacity ▸ proper.number
  refine ⟨⟨number, single⟩, limit, ⟨updated.rate, updated.bound limit, ?_⟩, ?_⟩
  · intro name g found
    cases earlier : find? name t.entries with
    | some own =>
      obtain ⟨changed, g', moved, there⟩ := updated.kept name own earlier
      rw [there] at found
      cases found
      exact Guaranteed.follows_of_updated limit moved
    | none =>
      have absent : name ∉ t.names := find?_eq_none_iff.mp earlier
      have there : name ∈ t'.names := List.mem_map_of_mem (mem_of_find? found)
      have longer : t'.names = t.names ++ fresh.map Prod.fst := updated.names
      rw [longer] at there
      obtain ⟨entry, m, rfl⟩ := List.mem_map.mp ((List.mem_append.mp there).resolve_left absent)
      obtain ⟨entered, -, -, made⟩ := updated.created entry m
      rw [find?_of_mem single entered] at found
      cases found
      exact Guaranteed.follows_of_created limit made
  · intro name named
    rw [updated.capacity]
    exact updated.covered name named

theorem nodup_names_of_sample {operation : String} {traceId : Int} {status : SamplingStatus}
    (distinct : t.names.Nodup) (h : t.sample now operation traceId = .ok (status, t')) :
    t'.names.Nodup := by
  obtain ⟨-, -, -, same | ⟨missing, -, longer⟩⟩ := frame_of_sample h
  · exact same ▸ distinct
  · rw [longer]
    simpa using distinct.concat missing

theorem nodup_names_enroll (distinct : t.names.Nodup) (now : Number) (operation : String) :
    (t.enroll now operation).names.Nodup := by
  unfold enroll
  split
  · exact distinct
  case isFalse free =>
    split
    · have absent : find? operation t.entries = none := by
        cases found : find? operation t.entries with
        | none => rfl
        | some g => simp [found] at free
      have missing : operation ∉ t.names := find?_eq_none_iff.mp absent
      have longer := distinct.concat missing
      simpa [names] using longer
    · exact distinct

theorem IsProper.of_sample {operation : String} {traceId : Int} {status : SamplingStatus}
    (proper : t.IsProper) (h : t.sample now operation traceId = .ok (status, t')) :
    t'.IsProper := by
  obtain ⟨capacity, -⟩ := frame_of_sample h
  exact ⟨capacity ▸ proper.number, nodup_names_of_sample proper.distinct h⟩

private theorem Conforms.follows_of_seeded {g : Guaranteed} {name : String}
    (conforms : t.Conforms p)
    (unnamed : name ∉ p.operations.map Prod.fst)
    (made : Guaranteed.create (.real t.defaultRate.value) (.real t.lowerBound) now = .ok g) :
    g.Follows (p.rateOf name) p.defaultLowerBound := by
  obtain ⟨ownRate, ownBound⟩ := Guaranteed.eq_of_create made
  constructor
  · rw [ownRate, rateOf_of_not_mem unnamed]
    exact conforms.follows.rate
  · rw [ownBound]
    exact conforms.follows.bound

/-- A question keeps the parameters in force. An operation that enters the table for it is none
that they name: of those some are in the table and the others have found no room. -/
theorem Conforms.of_sample {operation : String} {traceId : Int} {status : SamplingStatus}
    (conforms : t.Conforms p) (h : t.sample now operation traceId = .ok (status, t')) :
    t'.Conforms p := by
  have proper := conforms.proper.of_sample h
  have follows := conforms.follows
  rcases sample_cases h with ⟨g, g', found, answered, rfl⟩ | ⟨-, -, -, rfl⟩ |
    ⟨absent, room, g, g', made, answered, rfl⟩
  · have still : names { t with entries := set operation g' t.entries } = t.names := names_set g'
    refine ⟨proper, conforms.limit, ⟨follows.rate, follows.bound, ?_⟩, ?_⟩
    · intro name own there
      by_cases same : operation = name
      · subst same
        rw [find?_set_self found] at there
        cases there
        exact (follows.entries operation g found).of_sample answered
      · rw [find?_set_other same] at there
        exact follows.entries name own there
    · intro name named
      rcases conforms.covered name named with there | full
      · exact .inl (still ▸ there)
      · right
        unfold hasRoom at full ⊢
        rw [length_set]
        exact full
  · exact conforms
  · have missing : operation ∉ t.names := find?_eq_none_iff.mp absent
    have longer : names { t with entries := t.entries ++ [(operation, g')] } =
        t.names ++ [operation] := by simp [names]
    have spare : hasRoom t.maxOperations t.entries = true := by
      rw [isFull_eq_not_hasRoom conforms.proper.number] at room
      simpa using room
    have there : ∀ name ∈ p.operations.map Prod.fst, name ∈ t.names := by
      intro name named
      refine (conforms.covered name named).resolve_right ?_
      simp [spare]
    refine ⟨proper, conforms.limit, ⟨follows.rate, follows.bound, ?_⟩, ?_⟩
    · intro name own found
      rw [find?_append] at found
      cases earlier : find? name t.entries with
      | some old =>
        rw [earlier, Option.some_or] at found
        cases found
        exact follows.entries name own earlier
      | none =>
        rw [earlier, Option.none_or] at found
        obtain ⟨rfl, rfl⟩ : operation = name ∧ g' = own := by simpa [find?] using found
        have unnamed : operation ∉ p.operations.map Prod.fst := fun m => missing (there _ m)
        exact (conforms.follows_of_seeded unnamed made).of_sample answered
    · intro name named
      exact .inl (longer ▸ List.mem_append_left _ (there name named))

private theorem Conforms.after {call : Call} (conforms : t.Conforms p) (takes : t.Takes call)
    (limits : ∀ now q, call = .update now q → q.defaultLowerBound.IsLimit) :
    (t.after call).Conforms (inForceAfter p call) := by
  cases call with
  | sample now operation traceId =>
    unfold OperationTable.after
    dsimp only
    split
    case h_1 answered => exact conforms.of_sample answered
    case h_2 => exact conforms
  | update now q =>
    obtain ⟨changed, went⟩ := takes
    obtain ⟨fresh, updated⟩ := updated_of_update went
    exact updated.conforms conforms.proper (limits now q rfl)

private theorem Conforms.run {calls : List Call} (conforms : t.Conforms p)
    (succeeds : t.Succeeds calls)
    (limits : ∀ now q, .update now q ∈ calls → q.defaultLowerBound.IsLimit) :
    (t.run calls).Conforms (inForce p calls) := by
  induction calls generalizing t p with
  | nil => exact conforms
  | cons call rest ih =>
    obtain ⟨takes, succeeds⟩ := succeeds
    have next := conforms.after takes fun now q same => limits now q (same ▸ List.mem_cons_self)
    exact ih next succeeds fun now q m => limits now q (List.mem_cons_of_mem _ m)

/-- What a table is made of: the defaults, and an update of the empty table. -/
theorem update_of_create {maxOperations : Number}
    (made : (create maxOperations p now).1 = .ok t) :
    maxOperations.le (.integer 0) = false ∧ ∃ rate changed,
      (update ⟨maxOperations, rate, p.defaultLowerBound, []⟩ p now).result = .ok changed ∧
        t = (update ⟨maxOperations, rate, p.defaultLowerBound, []⟩ p now).table := by
  unfold create at made
  cases few : maxOperations.le (.integer 0) with
  | true =>
    rw [few] at made
    cases made
  | false =>
    rw [few] at made
    cases shared : Rate.create (.real p.defaultRate) with
    | error f =>
      rw [shared] at made
      cases made
    | ok rate =>
      rw [shared] at made
      simp only [Bool.false_eq_true, if_false] at made
      cases result : (update ⟨maxOperations, rate, p.defaultLowerBound, []⟩ p now).result with
      | error f =>
        rw [result] at made
        cases made
      | ok changed =>
        rw [result] at made
        cases made
        exact ⟨rfl, rate, changed, result, rfl⟩

theorem conforms_of_create {maxOperations : Number} (number : maxOperations.extended? ≠ none)
    (limit : p.defaultLowerBound.IsLimit) (made : (create maxOperations p now).1 = .ok t) :
    t.Conforms p := by
  obtain ⟨-, rate, changed, went, rfl⟩ := update_of_create made
  obtain ⟨fresh, updated⟩ := updated_of_update went
  exact updated.conforms ⟨number, List.nodup_nil⟩ limit

end Conforming

section Capacity

variable {t t' : OperationTable} {n : Int}

/-- A table for a whole number of operations that holds no more of them. -/
structure Fits (n : Int) (t : OperationTable) : Prop where
  whole : t.maxOperations.toInt? = some n
  small : (t.entries.length : Int) ≤ n

private theorem Fits.after {call : Call} (fits : Fits n t) (takes : t.Takes call) :
    Fits n (t.after call) := by
  obtain ⟨whole, small⟩ := fits
  cases call with
  | update now p =>
    obtain ⟨changed, went⟩ := takes
    obtain ⟨fresh, updated⟩ := updated_of_update went
    exact ⟨updated.capacity ▸ whole, updated.bounded n whole small⟩
  | sample now operation traceId =>
    unfold OperationTable.after
    dsimp only
    split
    case h_2 => exact ⟨whole, small⟩
    case h_1 status t' answered =>
      obtain ⟨capacity, -, -, entered⟩ := frame_of_sample answered
      refine ⟨capacity ▸ whole, ?_⟩
      have size : t'.entries.length = t'.names.length := by simp [names]
      have size' : t.entries.length = t.names.length := by simp [names]
      rcases entered with same | ⟨-, room, longer⟩
      · rw [size, same, ← size']
        exact small
      · have below : ¬ n ≤ (t.entries.length : Int) := by
          intro full
          rw [(isFull_iff whole).mpr full] at room
          cases room
        rw [size, longer, List.length_append, ← size', List.length_singleton]
        omega

private theorem Fits.run {calls : List Call} (fits : Fits n t) (succeeds : t.Succeeds calls) :
    Fits n (t.run calls) := by
  induction calls generalizing t with
  | nil => exact fits
  | cons call rest ih =>
    obtain ⟨takes, succeeds⟩ := succeeds
    exact ih (fits.after takes) succeeds

private theorem fits_of_create {maxOperations : Number} {p : OperationParameters} {now : Number}
    (whole : maxOperations.toInt? = some n) (made : (create maxOperations p now).1 = .ok t) :
    Fits n t := by
  obtain ⟨positive, rate, changed, went, rfl⟩ := update_of_create made
  obtain ⟨fresh, updated⟩ := updated_of_update went
  have enough : 0 ≤ n := by
    have place := Number.extended?_of_toInt? whole
    by_contra negative
    have below : (n : Rat) < 0 := by exact_mod_cast not_le.mp negative
    have zero : (Number.integer 0).extended? = some (.value 0) := rfl
    simp [Number.le, Number.lt, place, zero, Extended.blt, below] at positive
  exact ⟨updated.capacity ▸ whole, updated.bounded n whole (by simpa using enough)⟩

end Capacity

section Absent

variable {t : OperationTable} {operation : String} {now : Number}

private theorem sample_of_full (absent : operation ∉ t.names)
    (full : isFull t.maxOperations t.entries = true) (traceId : Int) :
    t.sample now operation traceId = .ok (t.defaultRate.sample traceId, t) := by
  unfold sample
  rw [find?_eq_none_iff.mpr absent]
  dsimp only
  rw [full]
  rfl

private theorem sample_of_room (absent : operation ∉ t.names) (limit : t.lowerBound.IsLimit)
    (room : isFull t.maxOperations t.entries = false) (now : Number) (traceId : Int) :
    ∃ g g' status,
      Guaranteed.create (.real t.defaultRate.value) (.real t.lowerBound) now = .ok g ∧
      g.sample now traceId = .ok (status, g') ∧
      t.sample now operation traceId =
        .ok (status, { t with entries := t.entries ++ [(operation, g')] }) := by
  obtain ⟨g, made, -⟩ := Guaranteed.follows_of_create t.defaultRate.inRange limit now
  obtain ⟨status, g', answered⟩ := Guaranteed.sample_of_create made traceId
  refine ⟨g, g', status, made, answered, ?_⟩
  unfold sample
  rw [find?_eq_none_iff.mpr absent]
  dsimp only
  rw [room, made]
  simp only [Bool.false_eq_true, if_false]
  show (g.sample now traceId >>= _) = _
  rw [answered]
  rfl

end Absent

/-- A table for a number of operations that keeps parameters: it holds no more operations than
that, each once and at the rate of its last mention or else the default rate, and every operation
that is mentioned unless it is full. A question of another operation brings in this one alone, at
the defaults, or gets the answer of the default rate if the table is full. -/
structure Keeps (n : Int) (p : OperationParameters) (t : OperationTable) : Prop where
  fits : (t.entries.length : Int) ≤ n
  distinct : t.names.Nodup
  defaults : t.defaultRate.value.eq p.defaultRate = true ∧
    t.lowerBound.eq p.defaultLowerBound = true
  bounds : ∀ entry ∈ t.entries, entry.2.floor.limit.eq t.lowerBound = true
  rates : ∀ entry ∈ t.entries, entry.2.rate.value.eq
    ((p.operations.reverse.lookup entry.1).getD t.defaultRate.value) = true
  covered : ∀ name ∈ p.operations.map Prod.fst,
    name ∈ t.names ∨ (t.entries.length : Int) = n
  absent : ∀ now operation traceId, operation ∉ t.names →
    if (t.entries.length : Int) < n then
      ∃ g g' status,
        Guaranteed.create (.real t.defaultRate.value) (.real t.lowerBound) now = .ok g ∧
        g.sample now traceId = .ok (status, g') ∧
        t.sample now operation traceId =
          .ok (status, { t with entries := t.entries ++ [(operation, g')] })
    else t.sample now operation traceId = .ok (t.defaultRate.sample traceId, t)

private theorem Conforms.keeps {n : Int} {p : OperationParameters} {t : OperationTable}
    (conforms : t.Conforms p) (fits : Fits n t) : Keeps n p t := by
  obtain ⟨proper, limit, follows, covered⟩ := conforms
  obtain ⟨whole, small⟩ := fits
  have entries : ∀ entry ∈ t.entries,
      entry.2.Follows (p.rateOf entry.1) p.defaultLowerBound := by
    intro entry m
    exact follows.entries entry.1 entry.2 (find?_of_mem proper.distinct m)
  refine ⟨small, proper.distinct, ⟨follows.rate, follows.bound⟩, ?_, ?_, ?_, ?_⟩
  · intro entry m
    exact Binary64.eq_trans (entries entry m).bound (Binary64.eq_symm follows.bound)
  · intro entry m
    have own := (entries entry m).rate
    unfold OperationParameters.rateOf at own
    cases mentioned : p.operations.reverse.lookup entry.1 with
    | some rate =>
      rw [mentioned] at own
      exact own
    | none =>
      rw [mentioned] at own
      exact Binary64.eq_trans own (Binary64.eq_symm follows.rate)
  · intro name named
    refine (covered name named).imp_right fun full => ?_
    have reached : ¬ (t.entries.length : Int) < n := by
      rw [← hasRoom_iff whole, full]
      exact Bool.false_ne_true
    omega
  · intro now operation traceId missing
    split
    case isTrue below =>
      have room : isFull t.maxOperations t.entries = false := by
        rw [← Bool.not_eq_true, isFull_iff whole]
        omega
      exact sample_of_room missing (limit.of_eq follows.bound) room now traceId
    case isFalse reached =>
      exact sample_of_full missing ((isFull_iff whole).mpr (not_lt.mp reached)) traceId

/-- Every state that questions and successful updates lead to keeps the parameters applied last,
and holds all the operations of every state before it. Limits are what documents give for lower
bounds. -/
theorem keeps_run {capacity : Number} {n : Int} (whole : capacity.toInt? = some n)
    {first : OperationParameters} {now : Number} {t : OperationTable}
    (made : (create capacity first now).1 = .ok t) {earlier later : List Call}
    (succeeds : t.Succeeds (earlier ++ later)) (limit : first.defaultLowerBound.IsLimit)
    (limits : ∀ now p, .update now p ∈ earlier ++ later → p.defaultLowerBound.IsLimit) :
    Keeps n (inForce first (earlier ++ later)) (t.run (earlier ++ later)) ∧
      (t.run earlier).names <+: (t.run (earlier ++ later)).names := by
  have number : capacity.extended? ≠ none := by
    rw [Number.extended?_of_toInt? whole]
    exact Option.some_ne_none _
  have conforms := (conforms_of_create number limit made).run succeeds limits
  have fits := (fits_of_create whole made).run succeeds
  refine ⟨conforms.keeps fits, ?_⟩
  rw [run_append]
  exact prefix_names_run later succeeds.of_append.2

def everyTrace : OperationParameters := ⟨.one, .zero false, []⟩

/-- No trace but one a second, and for one operation all of them. -/
def cartApart : OperationParameters :=
  ⟨.zero false, .one, [("cart", .zero false), ("search", .one), ("cart", .one)]⟩

theorem home_and_cart_kept :
    ∃ t, (create (.integer 2) everyTrace (.integer 0)).1 = .ok t ∧
      Keeps 2 cartApart (t.run ([.sample (.integer 1) "home" 7] ++
        [.update (.integer 2) cartApart, .sample (.integer 3) "search" 8])) ∧
      (t.run [.sample (.integer 1) "home" 7]).names <+:
        (t.run ([.sample (.integer 1) "home" 7] ++
          [.update (.integer 2) cartApart, .sample (.integer 3) "search" 8])).names := by
  have zero : (Binary64.zero false).IsShare := by
    unfold Binary64.IsShare
    decide +kernel
  have one : Binary64.one.IsShare := by
    unfold Binary64.IsShare
    decide +kernel
  have first : everyTrace.IsSound := ⟨one, zero.isLimit, by simp [everyTrace]⟩
  have second : cartApart.IsSound := by
    refine ⟨zero, one.isLimit, ?_⟩
    intro entry m
    simp only [cartApart, List.mem_cons, List.not_mem_nil, or_false] at m
    rcases m with rfl | rfl | rfl
    · exact zero
    · exact one
    · exact one
  have room : (Number.integer 1).le (.integer 2) = true := by decide
  obtain ⟨t, notices, created, -⟩ := follows_of_create first room (.integer 0)
  have made : (create (.integer 2) everyTrace (.integer 0)).1 = .ok t := by rw [created]
  obtain ⟨changed, t', notices', updated, -⟩ :=
    follows_of_update (t.after (.sample (.integer 1) "home" 7)) second (.integer 2)
  have goes : ∃ changed, ((t.after (.sample (.integer 1) "home" 7)).update cartApart
      (.integer 2)).result = .ok changed := ⟨changed, by rw [updated]⟩
  have succeeds : t.Succeeds ([.sample (.integer 1) "home" 7] ++
      [.update (.integer 2) cartApart, .sample (.integer 3) "search" 8]) :=
    ⟨trivial, goes, trivial, trivial⟩
  refine ⟨t, made, keeps_run rfl made succeeds first.bound ?_⟩
  intro now p m
  obtain ⟨-, rfl⟩ : now = .integer 2 ∧ p = cartApart := by simpa using m
  exact second.bound

end OperationTable

end Tracing
