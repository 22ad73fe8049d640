import Tracing.Delivery.Interleaving
import Tracing.Pipeline
/-!
A pipeline at work. Calls that sample and report, the timer that asks for flushes, the poller, the
worker and one closing call take their steps in any order, and the clock and the network change
between them. A call that reports goes through the filter in one step and then hands over, one by
one, the spans that the filter let through.
-/

set_option autoImplicit false
set_option relaxedAutoImplicit false

namespace Tracing

/-- A call that reports a span, and the spans that it still has to hand over. -/
structure Reporting where
  span : Span
  left : List Span

/-- Where the call that closes a pipeline stands. -/
inductive Shutdown where
  | notBegun
  /-- The filter is empty; the reporter is being closed. -/
  | underway
  | returned
  deriving DecidableEq

/-- A pipeline with one delivery, taken apart, and the calls that report. -/
structure Line where
  service : Json
  metricsPrefix : String
  sampler : Sampler
  filter : Option Filter
  /-- Whether spans are logged. -/
  logs : Bool
  delivery : Delivery
  shutdown : Shutdown := .notBegun
  calls : List Reporting := []

/-- One step of a caller, of a thread of the pipeline or of its surroundings. -/
inductive Act where
  | sample (operation traceId : Json)
  /-- A call that reports a span begins. -/
  | report (span : Span)
  /-- A call that reports hands its next span over, or ends. -/
  | goOn (call : Nat)
  | flush
  | take
  | proceed
  | close
  | poll
  | clock (now : Number)
  | network (network : Http.Network)

namespace Act

def isReport : Act → Bool
  | report span => span.isSampled
  | _ => false

/-- Whether an act does more than report a span that was not sampled. -/
def isHeard : Act → Bool
  | report span => span.isSampled
  | _ => true

def isLate : Act → Bool
  | report _ | flush => false
  | _ => true

/-- Whether nothing is reported and no flush is asked for once the closing call has begun. -/
def closesLast : List Act → Bool
  | [] => true
  | close :: rest => rest.all isLate
  | _ :: rest => closesLast rest

end Act

/-- A step of a pipeline, or of a caller that hands a span to its reporters by itself, sampled or
not. -/
inductive Deed where
  | act (a : Act)
  /-- A call that reports a span begins. -/
  | enter (span : Span)
  /-- A whole call that reports a span. -/
  | report (span : Span)

namespace Deed

def begins : Deed → Bool
  | act (.report _) | enter _ | report _ => true
  | _ => false

def isWhole : Deed → Bool
  | report _ => true
  | deed => !deed.begins

end Deed

namespace Line

def host (l : Line) : Host := l.delivery.host

def inside (l : Line) (host : Host) : Line := { l with delivery := { l.delivery with host } }

def deliver (l : Line) (move : Move) : Line := { l with delivery := l.delivery.step move }

def front (l : Line) : Reporter :=
  match l.filter with
  | none => .remote {} l.delivery.reporter
  | some f => .filtering {} f (.remote {} l.delivery.reporter)

def reporter (l : Line) : Reporter :=
  if l.logs then .composite {} [l.front, .logging {}] else l.front

def pipeline (l : Line) : Pipeline where
  service := l.service
  metricsPrefix := l.metricsPrefix
  sampler := l.sampler
  reporter := l.reporter
  metered := true
  closed := l.shutdown != .notBegun

/-- The parts of a pipeline with one remote reporter, before their first act. -/
def ofPipeline? (p : Pipeline) (h : Host) : Option Line :=
  let line (filter : Option Filter) (logs : Bool) (r : RemoteReporter) : Line :=
    { service := p.service
      metricsPrefix := p.metricsPrefix
      sampler := p.sampler
      filter
      logs
      delivery := .start r h }
  match p.reporter with
  | .remote _ r => some (line none false r)
  | .filtering _ f (.remote _ r) => some (line (some f) false r)
  | .composite _ [.remote _ r, .logging _] => some (line none true r)
  | .composite _ [.filtering _ f (.remote _ r), .logging _] => some (line (some f) true r)
  | _ => none

def screen (l : Line) (span : Span) : List Span × Line :=
  match l.filter with
  | none => ([span], l)
  | some f =>
    let (spans, f, h) := f.pass span l.host
    (spans, { l.inside h with filter := some f })

def clear (l : Line) : Line :=
  match l.filter with
  | none => l
  | some f =>
    let (f, h) := f.clear l.host
    { l.inside h with filter := some f }

def tell (l : Line) (span : Span) : Line :=
  l.inside (if l.logs then l.host.log (Reporter.spanNotice span) else l.host)

def sample (l : Line) (operation traceId : Json) : Line :=
  let (_, p, h) := l.pipeline.sample operation traceId l.host
  { l.inside h with sampler := p.sampler }

def answer? (l : Line) : Act → Option SamplingStatus
  | .sample operation traceId => (l.pipeline.sample operation traceId l.host).1.toOption
  | _ => none

/-- Begins to report a span to the reporters, sampled or not. -/
def enter (l : Line) (span : Span) : Line :=
  let (left, l) := l.screen span
  { l with calls := l.calls ++ [{ span, left }] }

def report (l : Line) (span : Span) : Line := if span.isSampled then l.enter span else l

def goOn (l : Line) (call : Nat) : Line :=
  match l.calls[call]? with
  | none => l
  | some ⟨span, []⟩ => { l.tell span with calls := l.calls.eraseIdx call }
  | some ⟨span, next :: left⟩ =>
    { l.deliver (.report next) with calls := l.calls.set call { span, left } }

def poll (l : Line) : Line :=
  match RemoteSampler.ofSampler? l.sampler with
  | none => l
  | some r =>
    let (r, h) := r.poll {} l.host
    { l.inside h with sampler := r.toSampler }

/-- The next step of the closing call: the filter first, then the delivery, then the sampler. -/
def close (l : Line) : Line :=
  match l.shutdown with
  | .notBegun =>
    { (l.inside (l.host.log (.pipelineClosing l.service))).clear with shutdown := .underway }
  | .underway =>
    match l.delivery.closing with
    | .returned =>
      let (_, sampler, h) := l.sampler.close {} l.host
      { l.inside h with sampler, shutdown := .returned }
    | _ => l.deliver .close
  | .returned => l

def step (l : Line) : Act → Line
  | .sample operation traceId => l.sample operation traceId
  | .report span => l.report span
  | .goOn call => l.goOn call
  | .flush => l.deliver .flush
  | .take => l.deliver .take
  | .proceed => l.deliver .proceed
  | .close => l.close
  | .poll => l.poll
  | .clock now => l.inside { l.host with now }
  | .network network => l.inside { l.host with network }

def run (l : Line) (acts : List Act) : Line := acts.foldl step l

def answers (l : Line) : List Act → List SamplingStatus
  | [] => []
  | a :: rest => (l.answer? a).toList ++ (l.step a).answers rest

def handOver (l : Line) (spans : List Span) : Line :=
  { l with delivery := l.delivery.run (spans.map .report) }

/-- A span goes through the filter, and what is let through to the remote reporter. -/
def passed (l : Line) (span : Span) : Line :=
  let (spans, l) := l.screen span
  (l.handOver spans).tell span

def perform (l : Line) : Deed → Line
  | .act a => l.step a
  | .enter span => l.enter span
  | .report span => l.passed span

def performAll (l : Line) (deeds : List Deed) : Line := deeds.foldl perform l

end Line

end Tracing
