import Tracing.Sampling.Guaranteed
import Tracing.Sampling.Strategy
import Tracing.Notice
/-!
Sampling operation by operation. A table gives each operation a share and floor of its own, up to
a number of operations; operations beyond it are sampled at the default rate. No operation ever
leaves the table.
-/

set_option autoImplicit false
set_option relaxedAutoImplicit false

namespace Tracing

/-- Samplers by operation, and what holds for operations that are not named. -/
structure OperationTable where
  maxOperations : Number
  defaultRate : Rate
  lowerBound : Binary64
  entries : List (String × Guaranteed) := []

namespace OperationTable

def find? (name : String) : List (String × Guaranteed) → Option Guaranteed
  | [] => none
  | (k, g) :: rest => if k = name then some g else find? name rest

def set (name : String) (entry : Guaranteed) :
    List (String × Guaranteed) → List (String × Guaranteed)
  | [] => []
  | (k, g) :: rest => if k = name then (k, entry) :: rest else (k, g) :: set name entry rest

def isFull (maxOperations : Number) (entries : List (String × Guaranteed)) : Bool :=
  maxOperations.le (.integer entries.length)

def hasRoom (maxOperations : Number) (entries : List (String × Guaranteed)) : Bool :=
  (Number.integer entries.length).lt maxOperations

/-- The decision on a trace of an operation. An operation that is not in the table enters it at the
defaults if there is room, and is else sampled at the default rate. -/
def sample (t : OperationTable) (now : Number) (operation : String) (traceId : Int) :
    Except Fault (SamplingStatus × OperationTable) :=
  match find? operation t.entries with
  | some g =>
    (g.sample now traceId).map fun (status, g) =>
      (status, { t with entries := set operation g t.entries })
  | none =>
    if isFull t.maxOperations t.entries then .ok (t.defaultRate.sample traceId, t) else do
      let g ← Guaranteed.create (.real t.defaultRate.value) (.real t.lowerBound) now
      let (status, g) ← g.sample now traceId
      return (status, { t with entries := t.entries ++ [(operation, g)] })

/-- The table with an entry at the defaults for an operation that has none, if there is room. -/
def enroll (t : OperationTable) (now : Number) (operation : String) : OperationTable :=
  if (find? operation t.entries).isSome || isFull t.maxOperations t.entries then t else
  match Guaranteed.create (.real t.defaultRate.value) (.real t.lowerBound) now with
  | .ok g => { t with entries := t.entries ++ [(operation, g)] }
  | .error _ => t

/-- Takes down the rate of an operation: in the place of an earlier mention, or at the end. -/
def mention (done : List (String × Binary64)) (operation : String × Binary64) :
    List (String × Binary64) :=
  if done.any fun (k, _) => k = operation.1 then
    done.map fun (k, r) => if k = operation.1 then (k, operation.2) else (k, r)
  else done ++ [operation]

/-- The rate of each named operation: operations in the order of their first mention, each with
the rate of its last. -/
def explicitRates (operations : List (String × Binary64)) : List (String × Binary64) :=
  operations.foldl mention []

/-- The result of an update: whether anything changed or what went wrong, the table that is left
behind in either case, and the events logged. -/
structure Outcome where
  result : Except Fault Bool
  table : OperationTable
  notices : List Notice := []

/-- Moves the entries of operations that are not named to the defaults, one by one; at the first
refusal those moved stay moved. -/
def moveUnnamed (named : List (String × Binary64)) (rate : Rate) (lowerBound : Binary64)
    (now : Number) : List (String × Guaranteed) → Except Fault Bool × List (String × Guaranteed)
  | [] => (.ok false, [])
  | (name, g) :: rest =>
    if named.any fun (k, _) => k = name then
      let (result, rest) := moveUnnamed named rate lowerBound now rest
      (result, (name, g) :: rest)
    else
      match g.update (.real rate.value) (.real lowerBound) now with
      | .error f => (.error f, (name, g) :: rest)
      | .ok (changed, g) =>
        let (result, rest) := moveUnnamed named rate lowerBound now rest
        (result.map (changed || ·), (name, g) :: rest)

/-- What is known while named operations are taken one by one: the entries that were there, the
entries that came in, whether anything changed, and the events logged. -/
structure Progress where
  old : List (String × Guaranteed)
  new : List (String × Guaranteed) := []
  changed : Bool := false
  notices : List Notice := []

/-- Gives each named operation its rate. An operation without an entry gets one if there is room,
and is reported if there is none. Entries that came in are lost at a refusal, entries that were
there keep what they got. -/
def moveNamed (maxOperations : Number) (lowerBound : Binary64) (now : Number) :
    List (String × Binary64) → Progress → Option Fault × Progress
  | [], p => (none, p)
  | (name, rate) :: rest, p =>
    match find? name p.old with
    | some g =>
      match g.update (.real rate) (.real lowerBound) now with
      | .error f => (some f, p)
      | .ok (changed, g) =>
        moveNamed maxOperations lowerBound now rest
          { p with old := set name g p.old, changed := p.changed || changed }
    | none =>
      if hasRoom maxOperations (p.old ++ p.new) then
        match Guaranteed.create (.real rate) (.real lowerBound) now with
        | .error f => (some f, p)
        | .ok g =>
          moveNamed maxOperations lowerBound now rest
            { p with new := p.new ++ [(name, g)], changed := true }
      else
        moveNamed maxOperations lowerBound now rest
          { p with notices := p.notices ++ [.capReached maxOperations name] }

/-- Applies parameters: the defaults, then the operations that are not named, then those that
are. -/
def update (t : OperationTable) (p : OperationParameters) (now : Number) : Outcome :=
  match Rate.create (.real p.defaultRate) with
  | .error f => ⟨.error f, t, []⟩
  | .ok rate =>
    let newRate := !rate.value.eq t.defaultRate.value
    let newBound := !p.defaultLowerBound.eq t.lowerBound
    let t := { t with
      defaultRate := if newRate then rate else t.defaultRate
      lowerBound := if newBound then p.defaultLowerBound else t.lowerBound }
    let named := explicitRates p.operations
    match moveUnnamed named rate p.defaultLowerBound now t.entries with
    | (.error f, entries) => ⟨.error f, { t with entries }, []⟩
    | (.ok moved, entries) =>
      match moveNamed t.maxOperations p.defaultLowerBound now named { old := entries } with
      | (some f, progress) => ⟨.error f, { t with entries := progress.old }, progress.notices⟩
      | (none, progress) =>
        ⟨.ok (newRate || newBound || moved || progress.changed),
          { t with entries := progress.old ++ progress.new }, progress.notices⟩

/-- A table for a number of operations that starts with some parameters, and the events logged. -/
def create (maxOperations : Number) (p : OperationParameters) (now : Number) :
    Except Fault OperationTable × List Notice :=
  if maxOperations.le (.integer 0) then (.error (.failure (.noOperations maxOperations)), []) else
  match Rate.create (.real p.defaultRate) with
  | .error f => (.error f, [])
  | .ok rate =>
    let outcome := OperationTable.update ⟨maxOperations, rate, p.defaultLowerBound, []⟩ p now
    (outcome.result.map fun _ => outcome.table, outcome.notices)

def insertByName (entry : String × Guaranteed) :
    List (String × Guaranteed) → List (String × Guaranteed)
  | [] => [entry]
  | other :: rest =>
    if other.1 < entry.1 then other :: insertByName entry rest else entry :: other :: rest

/-- The entries in the order of their names, by code point. -/
def sortedEntries (t : OperationTable) : List (String × Guaranteed) :=
  t.entries.foldr insertByName []

def description (t : OperationTable) : String :=
  s!"PerOperationSampler(max_operations={t.maxOperations.text}, " ++
    s!"operations={t.entries.length}, default={t.defaultRate.description})"

end OperationTable

end Tracing
