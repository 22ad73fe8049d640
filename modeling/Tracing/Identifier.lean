import Tracing.Json.Literal
/-!
Identifiers of traces and spans. An identifier is an integer of any size of which the low 64 bits
count: they are exported as sixteen hexadecimal digits and sampled as a signed number.
-/

set_option autoImplicit false
set_option relaxedAutoImplicit false

namespace Tracing.Identifier

def lowBits (id : Int) : Nat := (id % 0x10000000000000000).toNat

def signed (id : Int) : Int :=
  let bits := lowBits id
  if bits < 0x8000000000000000 then bits else (bits : Int) - 0x10000000000000000

/-- The exported text: sixteen lowercase hexadecimal digits. -/
def exported (id : Int) : String := String.ofList (Text.hexPadded 16 (lowBits id))

def logged (id : Int) : String := String.ofList (Text.hexPadded 1 (lowBits id))

theorem lowBits_lt (id : Int) : lowBits id < 0x10000000000000000 := by
  unfold lowBits
  omega

end Tracing.Identifier
