import Tracing.Fault
/-!
The wall clock. It is read in nanoseconds and shown in whole microseconds since the epoch.
-/

set_option autoImplicit false
set_option relaxedAutoImplicit false

namespace Tracing

/-- The greatest whole number of times that a positive number goes into a binary number. What is
left over is taken off before the division, so that rounding leaves the result whole. -/
def Binary64.floorDiv (x : Binary64) (d : Nat) : Binary64 :=
  match x with
  | .finite s m e _ =>
    let q := exact s m e
    let times := q.num.tdiv (q.den * d)
    let rest : Rat := q - (times * d : Int)
    let whole := (x - ofRat rest s).divNat d
    let whole := if rest < 0 then whole - one else whole
    match whole.value? with
    | some w =>
      if w = 0 then zero s else
      let below := w.floor
      ofRat (if mkRat 1 2 < w - (below : Rat) then (below + 1 : Int) else below) s
    | none => whole
  | _ => .nan

namespace Clock

def nanosPerMicro : Nat := 1000

/-- The whole microseconds of a reading. -/
def micros (wallNanos : Number) : Number :=
  match wallNanos with
  | .real x => .real (x.floorDiv nanosPerMicro)
  | n => .integer ((n.toInt?.getD 0) / nanosPerMicro)

/-- A reading of any value as microseconds. -/
def microsGiven (wallNanos : Json) : Except Fault Json :=
  wallNanos.number.map fun n => .ofNumber (micros n)

/-- Whole microseconds are all that a reading shows. -/
def isMicrosAccurate : Bool := true

end Clock

end Tracing
