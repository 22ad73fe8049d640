import Tracing.Host
import Tracing.Span.Given
/-!
Filtering spans by duration. A span below the first threshold is dropped; one below the second is
held back until the span it belongs under is long enough, and is forwarded just before it. Children
end before their parents, so held spans wait for the identifier of their parent and move up with it.
-/

set_option autoImplicit false
set_option relaxedAutoImplicit false

namespace Tracing

/-- Thresholds and held spans. Each held span stands with the identifier it waits for. Thresholds
that were given as something else than a number stand among the misfits under their names. -/
structure Filter where
  dropBelow : Number
  deferBelow : Number
  metered : Bool
  misfits : Tags := []
  pending : List (Int × Span) := []
  pendingCount : Int := 0

namespace Filter

def ofJson (drop defer : Json) (metered : Bool) : Filter := {
  dropBelow := drop.toNumber?.getD (.integer 0)
  deferBelow := defer.toNumber?.getD (.integer 0)
  metered
  misfits := Span.unlessFits "filter" drop drop.number ++
    Span.unlessFits "defer" defer defer.number }

def isNumbered (f : Filter) (name : String) : Bool := (f.misfits.lookup name).isNone

def thresholds (f : Filter) : List (String × Json) :=
  [("filter", (f.misfits.lookup "filter").getD (.ofNumber f.dropBelow)),
    ("defer", (f.misfits.lookup "defer").getD (.ofNumber f.deferBelow))]

/-- The held spans that wait for an identifier, in the order of their arrival there. -/
def waitingFor (f : Filter) (id : Int) : List Span :=
  (f.pending.filter fun (key, _) => key == id).map Prod.snd

def without (f : Filter) (id : Int) : Filter :=
  { f with pending := f.pending.filter fun (key, _) => !(key == id) }

def releaseHeld (f : Filter) (n : Nat) (h : Host) : Filter × Host :=
  let f := { f with pendingCount := f.pendingCount - n }
  (f, h.gauge f.metered .deferredPending f.pendingCount)

def dropHeld (f : Filter) (spans : List Span) (h : Host) : Filter × Host :=
  if spans.isEmpty then (f, h) else
  let (f, h) := f.releaseHeld spans.length h
  (f, h.count f.metered .deferredDropped spans.length)

def dropSpan (f : Filter) (held : List Span) (h : Host) : Filter × Host :=
  f.dropHeld held (h.count f.metered .filteredSpans 1)

def holdBack (f : Filter) (span : Span) (held : List Span) (h : Host) : Filter × Host :=
  let moved := (held ++ [span]).map fun s => (span.parentId, s)
  let f := { f with pending := f.pending ++ moved, pendingCount := f.pendingCount + 1 }
  let h := h.count f.metered .deferredStarted 1
  (f, h.gauge f.metered .deferredPending f.pendingCount)

/-- Takes a span. The answer lists the spans to forward, in order. -/
def pass (f : Filter) (span : Span) (h : Host) : List Span × Filter × Host :=
  let held := f.waitingFor span.spanId
  let f := f.without span.spanId
  if span.durationMicros.lt f.dropBelow then
    let (f, h) := f.dropSpan held h
    ([], f, h)
  else if span.durationMicros.lt f.deferBelow then
    let (f, h) := if span.isRoot then f.dropSpan held h else f.holdBack span held h
    ([], f, h)
  else if held.isEmpty then ([span], f, h)
  else
    let (f, h) := f.releaseHeld held.length h
    (held ++ [span], f, h.count f.metered .deferredSent held.length)

/-- Whether a span waits for another one, if it can be judged at all. -/
def defers (f : Filter) (span : Span) : Bool :=
  !span.durationMicros.lt f.dropBelow && span.durationMicros.lt f.deferBelow && !span.isRoot

/-- Whether the duration of a span can be compared with the thresholds; the second one is not
looked at where the first one drops the span. -/
def judges (f : Filter) (span : Span) : Bool :=
  span.isMeasured && f.isNumbered "filter" &&
    (span.durationMicros.lt f.dropBelow || f.isNumbered "defer")

/-- Takes a span whose members may be of any kind. One without a key is not looked at; one that
cannot be judged takes away the spans held under it. -/
def passGiven (f : Filter) (span : Span) (h : Host) : Except Fault (List Span) × Filter × Host :=
  if !span.isKeyed "span_id" then (.error .wrongType, f, h)
  else if !f.judges span || (f.defers span && !span.isKeyed "parent_id") then
    (.error .wrongType, f.without span.spanId, h)
  else
    let (spans, f, h) := f.pass span h
    (.ok spans, f, h)

def clear (f : Filter) (h : Host) : Filter × Host :=
  let dropped := f.pending.length
  let h := if dropped = 0 then h else h.count f.metered .deferredDropped dropped
  ({ f with pending := [], pendingCount := 0 }, h.gauge f.metered .deferredPending 0)

end Filter

end Tracing
