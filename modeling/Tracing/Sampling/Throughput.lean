import Tracing.TokenBucket
import Tracing.SamplingStatus
import Tracing.Fault
/-!
Sampling a number of traces per second. Every question costs one credit of a bucket that holds at
least one, so that a rate below one trace per second still admits some.
-/

set_option autoImplicit false
set_option relaxedAutoImplicit false

namespace Tracing

/-- A number of traces per second with its bucket. -/
structure Throughput where
  limit : Binary64
  bucket : TokenBucket Binary64

namespace Throughput

/-- A full bucket for a number of traces per second; a number below zero is refused. -/
def create (limit : Number) (now : Number) : Except Fault Throughput :=
  if limit.lt (.integer 0) then .error (.failure (.negativeLimit limit)) else
  match limit.toBinary64? with
  | none => .error .tooLarge
  | some x => .ok ⟨x, .full x (Binary64.greatest .one x) now⟩

def ask (t : Throughput) (now : Number) : Except Fault (Bool × Throughput) :=
  match t.bucket.check now .one with
  | none => .error .tooLarge
  | some (granted, bucket) => .ok (granted, { t with bucket })

def sample (t : Throughput) (now : Number) : Except Fault (SamplingStatus × Throughput) :=
  (t.ask now).map fun (granted, t) =>
    (.signed .rateLimiting (.real t.limit) granted, t)

def description (t : Throughput) : String :=
  s!"RateLimitingSampler(max_traces_per_second={t.limit.text})"

end Throughput

end Tracing
