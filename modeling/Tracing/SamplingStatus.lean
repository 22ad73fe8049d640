import Tracing.Span
/-!
The answer to a sampling question: whether the trace is kept, and tags that say who decided.
-/

set_option autoImplicit false
set_option relaxedAutoImplicit false

namespace Tracing

/-- A sampling decision with the tags that explain it. -/
structure SamplingStatus where
  sampled : Bool
  tags : Tags := []

/-- The kinds of sampler that sign decisions or describe themselves. -/
inductive SamplerKind where
  | const
  | probabilistic
  | rateLimiting
  | lowerBound
  | perOperation
  | remote
  deriving DecidableEq

def SamplerKind.tag : SamplerKind → String
  | const => "const"
  | probabilistic => "probabilistic"
  | rateLimiting => "ratelimiting"
  | lowerBound => "lowerbound"
  | perOperation => "peroperation"
  | remote => "remote"

def samplerTags (type parameter : Json) : Tags :=
  [("sampler.type", type), ("sampler.param", parameter)]

/-- Where the tags of a status come from. -/
inductive TagSource where
  | absent
  | given (tags : Tags)
  | signed (type parameter : Json)

namespace SamplingStatus

/-- A status with tags from a source. Tags are values, so no later change of the source shows. -/
def of (sampled : Bool) : TagSource → SamplingStatus
  | .absent => ⟨sampled, []⟩
  | .given tags => ⟨sampled, tags⟩
  | .signed type parameter => ⟨sampled, samplerTags type parameter⟩

/-- Only signed tags are shared between statuses; others are copied for each. -/
def sharesTags : TagSource → Bool
  | .signed .. => true
  | _ => false

def signed (kind : SamplerKind) (parameter : Json) (sampled : Bool) : SamplingStatus :=
  ⟨sampled, samplerTags (.text kind.tag) parameter⟩

def toJson (s : SamplingStatus) : Json :=
  .object [("sampled", .truth s.sampled), ("tags", .object s.tags)]

end SamplingStatus

end Tracing
