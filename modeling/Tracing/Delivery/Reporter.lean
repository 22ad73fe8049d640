import Tracing.Delivery.RemoteReporter
import Tracing.Delivery.Filter
/-!
Reporters: where finished spans go. A reporter keeps them, logs them, hands them to several others,
filters them in front of another, or delivers them through a queue.
-/

set_option autoImplicit false
set_option relaxedAutoImplicit false

namespace Tracing

/-- A reporter; each may be watched for its closing. -/
inductive Reporter where
  | memory (watch : Watch) (spans : List Span)
  | logging (watch : Watch)
  | composite (watch : Watch) (reporters : List Reporter)
  | filtering (watch : Watch) (filter : Filter) (delegate : Reporter)
  | remote (watch : Watch) (r : RemoteReporter)

namespace Reporter

def displayName : Reporter → String
  | memory .. => "InMemoryReporter"
  | logging _ => "LoggingReporter"
  | composite .. => "CompositeReporter"
  | filtering .. => "FilteringReporter"
  | remote .. => "RemoteReporter"

def watch : Reporter → Watch
  | memory w _ => w
  | logging w => w
  | composite w _ => w
  | filtering w _ _ => w
  | remote w _ => w

def spanNotice (s : Span) : Notice :=
  .spanReported (Identifier.logged s.traceId) (Identifier.logged s.spanId) s.operation
    s.givenDuration

def feed {σ : Type} (step : σ → Span → Host → σ × Host) : σ → List Span → Host → σ × Host
  | state, [], h => (state, h)
  | state, s :: rest, h =>
    let (state, h) := step state s h
    feed step state rest h

/-- Hands a span to each of several steps. -/
def each {σ : Type} (step : σ → Span → Host → σ × Host) (s : Span) :
    List σ → Host → List σ × Host
  | [], h => ([], h)
  | state :: rest, h =>
    let (state, h) := step state s h
    let (rest, h) := each step s rest h
    (state :: rest, h)

mutual

def depth : Reporter → Nat
  | composite _ rs => depthAll rs + 1
  | filtering _ _ delegate => delegate.depth + 1
  | _ => 1

def depthAll : List Reporter → Nat
  | [] => 0
  | r :: rest => max r.depth (depthAll rest)

end

/-- Hands a span through at most `levels` levels of reporters. A filter forwards each span through
its delegate before the next, so the delegate changes from span to span. -/
def offerWithin : Nat → Reporter → Span → Host → Reporter × Host
  | 0, r, _, h => (r, h)
  | _ + 1, memory w spans, s, h => (memory w (spans ++ [s]), h)
  | _ + 1, logging w, s, h => (logging w, h.log (spanNotice s))
  | n + 1, composite w rs, s, h =>
    let (rs, h) := each (offerWithin n) s rs h
    (composite w rs, h)
  | n + 1, filtering w f delegate, s, h =>
    let (spans, f, h) := f.pass s h
    let (delegate, h) := feed (offerWithin n) delegate spans h
    (filtering w f delegate, h)
  | _ + 1, remote w r, s, h =>
    let (r, h) := r.offer s h
    (remote w r, h)

/-- Hands a span over without waiting for any worker. -/
def offer (r : Reporter) (s : Span) (h : Host) : Reporter × Host := offerWithin r.depth r s h

/-- Hands a span over to several steps in order, up to the first that fails. -/
def eachUntilFault {σ : Type} (step : σ → Span → Host → Option Fault × σ × Host) (s : Span) :
    List σ → Host → Option Fault × List σ × Host
  | [], h => (none, [], h)
  | state :: rest, h =>
    match step state s h with
    | (some f, state, h) => (some f, state :: rest, h)
    | (none, state, h) =>
      let (fault, rest, h) := eachUntilFault step s rest h
      (fault, state :: rest, h)

/-- Hands spans one by one to a step, up to the first that fails. -/
def feedUntilFault {σ : Type} (step : σ → Span → Host → Option Fault × σ × Host) :
    σ → List Span → Host → Option Fault × σ × Host
  | state, [], h => (none, state, h)
  | state, s :: rest, h =>
    match step state s h with
    | (some f, state, h) => (some f, state, h)
    | (none, state, h) => feedUntilFault step state rest h

/-- Hands over a span that may have misfits, through at most `levels` levels of reporters. A
reporter that needs a misfit fails. -/
def offerGivenWithin : Nat → Reporter → Span → Host → Option Fault × Reporter × Host
  | 0, r, _, h => (none, r, h)
  | n + 1, r, s, h =>
    match r with
    | logging w => if s.isLoggable then (none, r.offer s h) else (some .wrongType, logging w, h)
    | composite w rs =>
      let (fault, rs, h) := eachUntilFault (offerGivenWithin n) s rs h
      (fault, composite w rs, h)
    | filtering w f delegate =>
      match f.passGiven s h with
      | (.error fault, f, h) => (some fault, filtering w f delegate, h)
      | (.ok spans, f, h) =>
        let (fault, delegate, h) := feedUntilFault (offerGivenWithin n) delegate spans h
        (fault, filtering w f delegate, h)
    | memory .. | remote .. => (none, r.offer s h)

mutual

/-- Closes a reporter. A recorded closing that fails does nothing else. -/
def close (h : Host) : Reporter → Option Fault × Reporter × Host
  | memory w spans => (w.fault?, memory w spans, w.record h)
  | logging w => (w.fault?, logging w, w.record h)
  | composite w rs =>
    let h := w.record h
    match w.fault? with
    | some f => (some f, composite w rs, h)
    | none =>
      let (fault, rs, h) := closeAll h rs
      (fault, composite w rs, h)
  | filtering w f delegate =>
    let h := w.record h
    match w.fault? with
    | some fault => (some fault, filtering w f delegate, h)
    | none =>
      let (f, h) := f.clear h
      let (fault, delegate, h) := close h delegate
      (fault, filtering w f delegate, h)
  | remote w r =>
    let h := w.record h
    match w.fault? with
    | some f => (some f, remote w r, h)
    | none =>
      let (fault, r, h) := r.close h
      (fault, remote w r, h)

/-- Closes several reporters in order, up to the first that fails. -/
def closeAll (h : Host) : List Reporter → Option Fault × List Reporter × Host
  | [] => (none, [], h)
  | r :: rest =>
    match close h r with
    | (some f, r, h) => (some f, r :: rest, h)
    | (none, r, h) =>
      let (fault, rest, h) := closeAll h rest
      (fault, r :: rest, h)

end

mutual

/-- Applies a step to each remote reporter with its number, and tells the next number. -/
def eachRemote (step : Nat → RemoteReporter → Host → RemoteReporter × Host) (i : Nat) (h : Host) :
    Reporter → Nat × Reporter × Host
  | remote w r =>
    let (r, h) := step i r h
    (i + 1, remote w r, h)
  | composite w rs =>
    let (i, rs, h) := eachRemoteOf step i h rs
    (i, composite w rs, h)
  | filtering w f delegate =>
    let (i, delegate, h) := eachRemote step i h delegate
    (i, filtering w f delegate, h)
  | memory w spans => (i, memory w spans, h)
  | logging w => (i, logging w, h)

def eachRemoteOf (step : Nat → RemoteReporter → Host → RemoteReporter × Host) (i : Nat)
    (h : Host) : List Reporter → Nat × List Reporter × Host
  | [] => (i, [], h)
  | r :: rest =>
    let (i, r, h) := eachRemote step i h r
    let (i, rest, h) := eachRemoteOf step i h rest
    (i, r :: rest, h)

end

def onRemote (n : Nat) (step : RemoteReporter → Host → RemoteReporter × Host) (r : Reporter)
    (h : Host) : Reporter × Host :=
  let (_, r, h) := eachRemote (fun i r h => if i = n then step r h else (r, h)) 0 h r
  (r, h)

def settle (r : Reporter) (h : Host) : Reporter × Host :=
  let (_, r, h) := eachRemote (fun _ r h => r.settle h) 0 h r
  (r, h)

/-- Reports a span: hands it over, and then lets the workers settle. -/
def report (r : Reporter) (s : Span) (h : Host) : Reporter × Host :=
  let (r, h) := r.offer s h
  r.settle h

/-- Reports a span that may have misfits. Spans held back earlier may have some too. -/
def reportGiven (r : Reporter) (s : Span) (h : Host) : Option Fault × Reporter × Host :=
  let (fault, r, h) := offerGivenWithin r.depth r s h
  (fault, r.settle h)

def flushRemote (n : Nat) (r : Reporter) (h : Host) : Reporter × Host :=
  r.onRemote n RemoteReporter.flush h

def holdRemote (n : Nat) (gate : Gate) (r : Reporter) (h : Host) : Reporter × Host :=
  r.onRemote n (fun r h => (r.hold gate, h)) h

/-- Disarms all gates of the remote reporter of a number, and lets its worker go on. -/
def resumeRemote (n : Nat) (r : Reporter) (h : Host) : Reporter × Host :=
  r.onRemote n RemoteReporter.resume h

def remoteCount (r : Reporter) : Nat := (eachRemote (fun _ r h => (r, h)) 0 {} r).1

def standardLabel : String := "memory"

mutual

/-- Forgets the spans kept under a label. -/
def clear (label : String) : Reporter → Reporter
  | memory w spans =>
    if w.label.getD standardLabel = label then memory w [] else memory w spans
  | composite w rs => composite w (clearAll label rs)
  | filtering w f delegate => filtering w f (clear label delegate)
  | logging w => logging w
  | remote w r => remote w r

def clearAll (label : String) : List Reporter → List Reporter
  | [] => []
  | r :: rest => clear label r :: clearAll label rest

end

mutual

def state : Reporter → Json
  | memory _ spans =>
    .object [("class", .text "InMemoryReporter"), ("len", .integer spans.length),
      ("spans", .array (spans.map Span.toJson))]
  | logging _ => .object [("class", .text "LoggingReporter")]
  | composite _ rs =>
    .object ([("class", .text "CompositeReporter"), ("reporters", .array (states rs))] ++
      if rs.isEmpty then [("repr", .text "CompositeReporter(reporters=[])")] else [])
  | filtering _ f delegate =>
    .object ([("class", .text "FilteringReporter")] ++ f.thresholds ++
      [("pending", .integer f.pendingCount), ("delegate", delegate.state)])
  | remote _ r => r.state

def states : List Reporter → List Json
  | [] => []
  | r :: rest => r.state :: states rest

end

mutual

/-- What keeps the state from being shown: a kept span that cannot be exported. -/
def stateFault? : Reporter → Option Fault
  | memory _ spans => spans.findSome? Span.exportFault?
  | logging _ => none
  | composite _ rs => firstStateFault? rs
  | filtering _ _ delegate => delegate.stateFault?
  | remote .. => none

def firstStateFault? : List Reporter → Option Fault
  | [] => none
  | r :: rest => r.stateFault? <|> firstStateFault? rest

end

mutual

def layout : Reporter → Json
  | memory .. => .object [("class", .text "InMemoryReporter")]
  | logging _ => .object [("class", .text "LoggingReporter")]
  | composite _ rs =>
    .object [("class", .text "CompositeReporter"), ("reporters", .array (layouts rs))]
  | filtering _ f delegate =>
    .object ([("class", .text "FilteringReporter")] ++ f.thresholds ++
      [("delegate", delegate.layout)])
  | remote _ r => r.layout

def layouts : List Reporter → List Json
  | [] => []
  | r :: rest => r.layout :: layouts rest

end

end Reporter

end Tracing
