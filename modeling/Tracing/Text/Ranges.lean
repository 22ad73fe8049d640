/-!
Sets of code points as tables of closed ranges.
-/

set_option autoImplicit false
set_option relaxedAutoImplicit false

namespace Tracing.Text

abbrev Ranges := Array (Nat × Nat)

def Ranges.contains (ranges : Ranges) (n : Nat) : Bool :=
  ranges.any fun (low, high) => low ≤ n && n ≤ high

/-- Whether a code point is the first of a range or an even number of places behind it. -/
def Ranges.alternates (ranges : Ranges) (n : Nat) : Bool :=
  ranges.any fun (low, high) => low ≤ n && n ≤ high && (n - low) % 2 == 0

end Tracing.Text
