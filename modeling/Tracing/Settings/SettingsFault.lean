import Tracing.Violation
import Tracing.Json.Token
/-!
Why there are no settings, or no file of them: what is wrong with the file, with a variable, or with
the values.
-/

set_option autoImplicit false
set_option relaxedAutoImplicit false

namespace Tracing

/-- Why there are no settings, or no text of them. -/
inductive SettingsFault where
  | unreadableVariable (group : String)
  | unusableFront
  | namelessVariable
  | misnamedVariable
  | brokenVariable
  | invalid (violations : List Violation)
  | missingFile (path : String)
  | notAFile
  | unreachablePath
  | notText
  | notJson
  | tooDeep
  | overlongInteger (digits : Nat)
  | unwritableInteger
  | wrongType

namespace SettingsFault

/-- The message of a fault, where it has one of its own. -/
def message? : SettingsFault → Option String
  | unreadableVariable group =>
    some s!"error parsing value for field \"{group}\" from source \"EnvSettingsSource\""
  | unusableFront =>
    some "error getting value for field \"service_name\" from source \"EnvSettingsSource\""
  | misnamedVariable => some "illegal environment variable name"
  | brokenVariable => some "embedded null byte"
  | missingFile path => some ("Config file not found: " ++ path)
  | overlongInteger digits =>
    some (s!"Exceeds the limit ({Json.integerDigitLimit} digits) for integer string conversion: " ++
      s!"value has {digits} digits; use sys.set_int_max_str_digits() to increase the limit")
  | unwritableInteger =>
    some (s!"Exceeds the limit ({Json.integerDigitLimit} digits) for integer string conversion; " ++
      "use sys.set_int_max_str_digits() to increase the limit")
  | _ => none

end SettingsFault

end Tracing
