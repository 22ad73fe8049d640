import Tracing.Sampling.Remote
import Tracing.Delivery.Reporter
/-!
A pipeline: a sampler that decides which traces to keep, and a reporter for the spans of those that
are kept. Closing a pipeline closes both, once, the sampler also where the reporter fails.
-/

set_option autoImplicit false
set_option relaxedAutoImplicit false

namespace Tracing

/-- A sampler and a reporter for one service. -/
structure Pipeline where
  service : Json
  metricsPrefix : String
  samplerWatch : Watch := {}
  sampler : Sampler
  reporter : Reporter
  metered : Bool
  closed : Bool := false

namespace Pipeline

/-- The decision on a trace that starts; decisions are counted. -/
def sample (p : Pipeline) (operation traceId : Json) (h : Host) :
    Except Fault SamplingStatus × Pipeline × Host :=
  let (result, sampler) := p.sampler.sampleGiven h.now operation traceId
  let p := { p with sampler }
  match result with
  | .error f => (.error f, p, h)
  | .ok status =>
    let started := if status.sampled then .startedSampled else .startedNotSampled
    (.ok status, p, h.count p.metered started 1)

def report (p : Pipeline) (s : Span) (h : Host) : Pipeline × Host :=
  if s.isSampled then
    let (reporter, h) := p.reporter.report s h
    ({ p with reporter }, h)
  else (p, h)

def reportGiven (p : Pipeline) (s : Span) (h : Host) : Option Fault × Pipeline × Host :=
  if s.isSampled then
    let (fault, reporter, h) := p.reporter.reportGiven s h
    (fault, { p with reporter }, h)
  else (none, p, h)

/-- Closes the reporter, then the sampler, once. Of two faults the sampler's is told. -/
def close (p : Pipeline) (h : Host) : Option Fault × Pipeline × Host :=
  if p.closed then (none, p, h) else
  let h := h.log (.pipelineClosing p.service)
  let (first, reporter, h) := p.reporter.close h
  let (second, sampler, h) := p.sampler.close p.samplerWatch h
  (second <|> first, { p with reporter, sampler, closed := true }, h)

/-- Closes the pipeline after a piece of work, also where that ends in a fault. A fault of closing
takes the place of the work's. -/
def finish {α : Type} (result : Except Fault α) (p : Pipeline) (h : Host) :
    Except Fault α × Pipeline × Host :=
  match p.close h with
  | (some f, p, h) => (.error f, p, h)
  | (none, p, h) => (result, p, h)

end Pipeline

end Tracing
