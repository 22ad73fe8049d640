import Tracing.Identifier
import Tracing.SamplingStatus
import Tracing.Fault
/-!
Sampling a fixed share of traces by identifier alone. Identifiers are read as signed numbers: a
positive one is sampled up to the share of the positive numbers, a negative one down to the share
of the negative numbers, so all processes agree on a trace without talking to each other.
-/

set_option autoImplicit false
set_option relaxedAutoImplicit false

namespace Tracing

/-- A share of traces, from zero to one. -/
structure Rate where
  value : Binary64
  inRange : ((Binary64.zero false).le value && value.le .one) = true
  deriving DecidableEq

namespace Rate

def ofBinary64? (x : Binary64) : Option Rate :=
  if h : ((Binary64.zero false).le x && x.le .one) = true then some ⟨x, h⟩ else none

/-- The share a number stands for; any number outside zero to one is refused. -/
def ofNumber (n : Number) : Except Failure Rate :=
  match n.toBinary64? with
  | none => .error (.rateOutOfRange n)
  | some x =>
    match ofBinary64? x with
    | some rate => .ok rate
    | none => .error (.rateOutOfRange n)

/-- The whole part of the share of `2 ^ 63`. -/
def boundary (r : Rate) : Nat :=
  match r.value with
  | .finite _ m e _ =>
    if 0 ≤ e + 63 then m <<< (e + 63).toNat else m >>> (-(e + 63)).toNat
  | _ => 0

def isPositive (r : Rate) : Bool := (Binary64.zero false).lt r.value

def covers (r : Rate) (traceId : Int) : Bool :=
  let id := Identifier.signed traceId
  if 0 < id then id ≤ r.boundary
  else if id < 0 then -(r.boundary : Int) ≤ id
  else r.isPositive

def standard : Rate := ⟨.finite false 4611686018427388 (-62) (by decide), by decide +kernel⟩

def sample (r : Rate) (traceId : Int) : SamplingStatus :=
  .signed .probabilistic (.real r.value) (r.covers traceId)

def description (r : Rate) : String :=
  s!"ProbabilisticSampler(sampling_rate={r.value.text})"

end Rate

end Tracing
