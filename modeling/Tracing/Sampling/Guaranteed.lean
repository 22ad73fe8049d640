import Tracing.Sampling.Rate
import Tracing.Sampling.Throughput
/-!
Sampling a share of traces with a floor in traces per second. Share and floor both see every
question, so the floor is charged also for traces that the share keeps.
-/

set_option autoImplicit false
set_option relaxedAutoImplicit false

namespace Tracing

/-- A share of traces and a floor under it. -/
structure Guaranteed where
  rate : Rate
  floor : Throughput

def Rate.create (rate : Number) : Except Fault Rate := (Rate.ofNumber rate).mapError .failure

namespace Guaranteed

/-- A sampler of a share and a floor; the share is checked first. -/
def create (rate lowerBound : Number) (now : Number) : Except Fault Guaranteed := do
  let rate ← Rate.create rate
  let floor ← Throughput.create lowerBound now
  return ⟨rate, floor⟩

/-- The decision on a trace: kept by the share, else by the floor, else not kept. -/
def sample (g : Guaranteed) (now : Number) (traceId : Int) :
    Except Fault (SamplingStatus × Guaranteed) :=
  (g.floor.ask now).map fun (granted, floor) =>
    let status :=
      if g.rate.covers traceId then g.rate.sample traceId
      else .signed .lowerBound (.real g.rate.value) granted
    (status, { g with floor })

/-- Replaces the share, the floor or both where the number given differs from the one in force. A
refused number leaves both as they were; a floor that stays keeps its credits. -/
def update (g : Guaranteed) (rate lowerBound : Number) (now : Number) :
    Except Fault (Bool × Guaranteed) := do
  let newRate := !rate.eq (.real g.rate.value)
  let newFloor := !lowerBound.eq (.real g.floor.limit)
  let share ← if newRate then Rate.create rate else .ok g.rate
  let floor ← if newFloor then Throughput.create lowerBound now else .ok g.floor
  return (newRate || newFloor, ⟨share, floor⟩)

/-- An update as it goes along: what is in force is looked at, what differs from it is made anew,
and what came of that is put in force in one step at the end. -/
def revise (rate lowerBound : Number) (now : Number) :
    EStateM Fault Guaranteed Bool := do
  let current ← get
  let newRate := !rate.eq (.real current.rate.value)
  let share ← if newRate then MonadExcept.ofExcept (Rate.create rate) else pure current.rate
  let newFloor := !lowerBound.eq (.real current.floor.limit)
  let floor ←
    if newFloor then MonadExcept.ofExcept (Throughput.create lowerBound now)
    else pure current.floor
  if newRate || newFloor then
    set (Guaranteed.mk share floor)
  return newRate || newFloor

/-- An update of values that may be no numbers; the share is looked at first. -/
def updateGiven (g : Guaranteed) (rate lowerBound : Json) (now : Number) :
    Except Fault (Bool × Guaranteed) := do
  let rate ← rate.number
  match lowerBound.number with
  | .ok bound => g.update rate bound now
  | .error f =>
    let _ ← g.update rate (.real g.floor.limit) now
    throw f

def description (g : Guaranteed) : String :=
  s!"GuaranteedThroughputSampler(sampling_rate={g.rate.value.text}, " ++
    s!"lower_bound={g.floor.limit.text})"

end Guaranteed

end Tracing
