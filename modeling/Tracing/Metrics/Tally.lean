import Tracing.Metrics.Instrument
/-!
The values of the tracer's instruments.
-/

set_option autoImplicit false
set_option relaxedAutoImplicit false

namespace Tracing.Metrics

def Instrument.index : Instrument → Fin 15
  | startedSampled => 0
  | startedNotSampled => 1
  | reporterSuccess => 2
  | reporterFailure => 3
  | reporterDropped => 4
  | reporterQueueLength => 5
  | samplerRetrieved => 6
  | samplerQueryFailure => 7
  | samplerUpdated => 8
  | samplerParsingFailure => 9
  | filteredSpans => 10
  | deferredStarted => 11
  | deferredSent => 12
  | deferredDropped => 13
  | deferredPending => 14

private theorem Instrument.index_inj {i j : Instrument} : i.index = j.index ↔ i = j := by
  cases i <;> cases j <;> decide

/-- One value for each instrument. -/
structure Tally where
  values : Vector Int 15

namespace Tally

def zero : Tally := ⟨Vector.replicate 15 0⟩

instance : Inhabited Tally := ⟨zero⟩

def get (t : Tally) (i : Instrument) : Int := t.values[i.index]

def set (t : Tally) (i : Instrument) (n : Int) : Tally := ⟨t.values.set i.index n⟩

def add (t : Tally) (i : Instrument) (n : Int) : Tally := t.set i (t.get i + n)

@[simp] theorem get_set (t : Tally) (i j : Instrument) (n : Int) :
    (t.set i n).get j = if i = j then n else t.get j := by
  unfold get set
  by_cases h : i = j
  · subst h; simp
  · have : i.index ≠ j.index := fun e => h (Instrument.index_inj.mp e)
    simp [h, Fin.val_inj, this]

@[simp] theorem get_add (t : Tally) (i j : Instrument) (n : Int) :
    (t.add i n).get j = if i = j then t.get j + n else t.get j := by
  unfold add
  by_cases h : i = j
  · subst h; simp
  · simp [h]

end Tally

end Tracing.Metrics
