import Tracing.Http.Network
import Tracing.Metrics.Tally
import Tracing.Notice
/-!
What surrounds the tracer: the reading of the clock, the network, and what the tracer has left
behind, its tally, its log and the closings of watched components.
-/

set_option autoImplicit false
set_option relaxedAutoImplicit false

namespace Tracing

open Metrics (Instrument Tally)

/-- The surroundings of a tracer. -/
structure Host where
  now : Number := .integer 0
  network : Http.Network := {}
  tally : Tally := Tally.zero
  notices : List Notice := []
  closings : List String := []

namespace Host

def log (h : Host) (n : Notice) : Host := { h with notices := h.notices ++ [n] }

def count (h : Host) (metered : Bool) (i : Instrument) (n : Nat) : Host :=
  if metered then { h with tally := h.tally.add i n } else h

/-- Adds an amount of unknown sign to a counter; a counter that counts refuses a negative one. -/
def count? (h : Host) (metered : Bool) (i : Instrument) (n : Int) : Option Host :=
  if metered then
    if n < 0 then none else some { h with tally := h.tally.add i n }
  else some h

def gauge (h : Host) (metered : Bool) (i : Instrument) (n : Int) : Host :=
  if metered then { h with tally := h.tally.set i n } else h

@[simp] theorem tally_log (h : Host) (n : Notice) : (h.log n).tally = h.tally := rfl

@[simp] theorem get_count (h : Host) (metered : Bool) (i j : Instrument) (n : Nat) :
    (h.count metered i n).tally.get j =
      h.tally.get j + if metered = true ∧ i = j then (n : Int) else 0 := by
  cases metered <;> by_cases e : i = j <;> simp [count, e]

@[simp] theorem get_gauge (h : Host) (metered : Bool) (i j : Instrument) (n : Int) :
    (h.gauge metered i n).tally.get j = if metered = true ∧ i = j then n else h.tally.get j := by
  cases metered <;> by_cases e : i = j <;> simp [gauge, e]

theorem count?_eq_none {h : Host} {metered : Bool} {i : Instrument} {n : Int} :
    h.count? metered i n = none ↔ metered = true ∧ n < 0 := by
  cases metered <;> simp [count?]

theorem get_of_count?_eq_some {h h' : Host} {metered : Bool} {i : Instrument} {n : Int}
    (e : h.count? metered i n = some h') (j : Instrument) :
    h'.tally.get j = h.tally.get j + if metered = true ∧ i = j then n else 0 := by
  cases metered
  · simp only [count?, Bool.false_eq_true, if_false, Option.some.injEq] at e
    simp [← e]
  · simp only [count?, if_true] at e
    split at e
    · cases e
    · cases e
      by_cases same : i = j <;> simp [same]

/-- The same surroundings at a later, or earlier, reading of the clock. -/
def advance (h : Host) (nanos : Json) : Except Fault Host := do
  match h.now.add? (← nanos.number) with
  | some now => return { h with now }
  | none => throw .tooLarge

end Host

/-- How the closing of a component is watched: under which label it is recorded, and whether it
fails. -/
structure Watch where
  label : Option String := none
  failure : Option String := none

def Watch.record (w : Watch) (h : Host) : Host :=
  match w.label with
  | some label => { h with closings := h.closings ++ [label] }
  | none => h

/-- The fault of a closing that fails; only a recorded closing does. -/
def Watch.fault? (w : Watch) : Option Fault :=
  match w.label, w.failure with
  | some _, some text => some (.raised text)
  | _, _ => none

end Tracing
