import Tracing.Fault
import Tracing.Number.Written
/-!
A bucket of credits that fills at a steady rate up to a capacity and pays for what is asked of it.
The bucket is defined over any arithmetic of credits: binary numbers when it runs, rationals when
its envelope is computed.
-/

set_option autoImplicit false
set_option relaxedAutoImplicit false

namespace Tracing

/-- An arithmetic of credits. -/
class Credit (K : Type) where
  add : K → K → K
  sub : K → K → K
  mul : K → K → K
  lt : K → K → Bool
  le : K → K → Bool
  /-- Nanoseconds as seconds, where they can be counted. -/
  seconds? : Number → Option K

instance : Credit Binary64 where
  add := Binary64.add
  sub := Binary64.sub
  mul := Binary64.mul
  lt := Binary64.lt
  le := Binary64.le
  seconds? n := n.toBinary64?.map (·.divNat 1000000000)

instance : Credit Rat where
  add := (· + ·)
  sub := (· - ·)
  mul := (· * ·)
  lt p q := p < q
  le p q := p ≤ q
  seconds? n := n.toInt?.map fun (nanos : Int) => (nanos : Rat) / 1000000000

/-- Credits per second, the most that is kept, what there is, and when that was counted. -/
structure TokenBucket (K : Type) where
  rate : K
  capacity : K
  balance : K
  lastTick : Number

namespace TokenBucket

variable {K : Type} [Credit K]

def full (rate capacity : K) (now : Number) : TokenBucket K := ⟨rate, capacity, capacity, now⟩

/-- Counts the credits that came in since the last count, up to the capacity. A clock that went
backwards brings none. Where the time cannot be counted there is no answer. -/
def accrue (b : TokenBucket K) (now : Number) : Option (TokenBucket K) :=
  ((now.since? b.lastTick).bind Credit.seconds?).map fun elapsed =>
    let raised := Credit.add b.balance (Credit.mul elapsed b.rate)
    { b with
      balance := if Credit.lt raised b.capacity then raised else b.capacity
      lastTick := now }

def spend (b : TokenBucket K) (cost : K) : TokenBucket K :=
  { b with balance := Credit.sub b.balance cost }

/-- Pays a cost if there are credits enough, after counting what came in. -/
def check (b : TokenBucket K) (now : Number) (cost : K) : Option (Bool × TokenBucket K) :=
  (b.accrue now).map fun b =>
    if Credit.le cost b.balance then (true, b.spend cost) else (false, b)

/-- Pays a cost given as any value. What there is, is compared with the exact cost; a cost that is
affordable but no binary number cannot be taken out. What came in is counted in every case. -/
def checkGiven (b : TokenBucket Binary64) (now : Number) (cost : Json) :
    Except Fault Bool × TokenBucket Binary64 :=
  match b.accrue now with
  | none => (.error .tooLarge, b)
  | some b =>
    match cost.toNumber? with
    | none => (.error .wrongType, b)
    | some n =>
      if n.le (.real b.balance) then
        match n.toBinary64? with
        | some c => (.ok true, b.spend c)
        | none => (.error .tooLarge, b)
      else (.ok false, b)

/-- Asks the same several times, up to the first fault, and adds what is granted to a count. -/
def checkMany (b : TokenBucket Binary64) (now : Number) (cost : Json) (done : Nat) :
    Nat → Except Fault Nat × TokenBucket Binary64
  | 0 => (.ok done, b)
  | n + 1 =>
    match b.checkGiven now cost with
    | (.error f, b) => (.error f, b)
    | (.ok granted, b) => checkMany b now cost (if granted then done + 1 else done) n

/-- A full bucket whose numbers may be written as texts; the rate is read first. -/
def ofJson (rate capacity : Json) (now : Number) : Except Fault (TokenBucket Binary64) := do
  let rate ← Json.writtenReal rate
  let capacity ← Json.writtenReal capacity
  return .full rate capacity now

def text (b : TokenBucket Binary64) : String :=
  s!"RateLimiter(credits_per_second={b.rate.text}, max_balance={b.capacity.text})"

end TokenBucket

end Tracing
