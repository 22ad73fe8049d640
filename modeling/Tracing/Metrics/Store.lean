import Tracing.Metrics.Instrument
/-!
Counters and gauges in memory, by key. An instrument is a key in the store, so instruments of one
name and the same tags share their value; counters and gauges have separate stores.
-/

set_option autoImplicit false
set_option relaxedAutoImplicit false

namespace Tracing.Metrics

/-- Values by key, in the order of creation. -/
abbrev Cells (V : Type) := List (String × V)

namespace Cells

variable {V : Type}

def find? (key : String) : Cells V → Option V
  | [] => none
  | (k, v) :: rest => if k = key then some v else find? key rest

/-- Adds a key with a first value unless it is there. -/
def create (key : String) (first : V) (cells : Cells V) : Cells V :=
  match find? key cells with
  | some _ => cells
  | none => cells ++ [(key, first)]

def set (key : String) (value : V) : Cells V → Cells V
  | [] => []
  | (k, v) :: rest => if k = key then (k, value) :: rest else (k, v) :: set key value rest

end Cells

/-- Counters and gauges. A gauge shows whatever it was set to. -/
structure Store where
  counters : Cells Number := []
  gauges : Cells Json := []

/-- Why an increment is refused. -/
inductive Refusal where
  | negative
  | tooLarge
  | notANumber
  deriving DecidableEq

def negativeIncrement : String := "Counter can only be incremented"

namespace Store

def createCounter (name : String) (tags : Tags) (s : Store) : String × Store :=
  let key := flatten name tags
  (key, { s with counters := s.counters.create key (.integer 0) })

def createGauge (name : String) (tags : Tags) (s : Store) : String × Store :=
  let key := flatten name tags
  (key, { s with gauges := s.gauges.create key (.integer 0) })

/-- Adds to a counter; a negative amount is refused and changes nothing. -/
def increment (key : String) (delta : Number) (s : Store) : Except Refusal Store :=
  if delta.lt (.integer 0) then .error .negative else
  match s.counters.find? key with
  | none => .ok s
  | some v =>
    match v.add? delta with
    | some sum => .ok { s with counters := s.counters.set key sum }
    | none => .error .tooLarge

def incrementGiven (key : String) (delta : Json) (s : Store) : Except Refusal Store :=
  match delta.toNumber? with
  | some n => s.increment key n
  | none => .error .notANumber

def update (key : String) (amount : Json) (s : Store) : Store :=
  { s with gauges := s.gauges.set key amount }

def counter (name : String) (query : TagQuery) (s : Store) : Number :=
  (s.counters.find? (flatten name query.toTags)).getD (.integer (-1))

def gauge (name : String) (query : TagQuery) (s : Store) : Json :=
  (s.gauges.find? (flatten name query.toTags)).getD (.integer (-1))

def toJson (s : Store) : Json :=
  .object [("counters", .object (s.counters.map fun (k, v) => (k, .ofNumber v))),
    ("gauges", .object s.gauges)]

def ofInstruments (pre : String) : Store :=
  Instrument.all.foldl (fun s i =>
    match i.definition.kind with
    | .counter => (s.createCounter (pre ++ i.definition.name) i.tags).2
    | .gauge => (s.createGauge (pre ++ i.definition.name) i.tags).2) {}

/-- Moves an instrument of the tracer: a counter by an amount, a gauge to it. -/
def move (pre : String) (i : Instrument) (amount : Json) (s : Store) : Except Refusal Store :=
  match i.definition.kind with
  | .counter => s.incrementGiven (i.key pre) amount
  | .gauge => .ok (s.update (i.key pre) amount)

end Store

end Tracing.Metrics
