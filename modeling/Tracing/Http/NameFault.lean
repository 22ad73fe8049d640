/-!
What is wrong with the label of a host name.
-/

set_option autoImplicit false
set_option relaxedAutoImplicit false

namespace Tracing.Http

/-- Why characters are no label. -/
inductive NameFault where
  /-- It is empty, too long, not in composed form, or has a hyphen, a mark or a joiner where none
  may stand. -/
  | malformed
  /-- A character that no name has. -/
  | foreignCharacter
  /-- A sign without the characters beside which it may stand. -/
  | misplacedSign
  /-- Directions of writing that do not stand together. -/
  | mixedDirections
  deriving DecidableEq

end Tracing.Http
