import Tracing.Json.Access
import Tracing.Settings.SettingsFault
import Tracing.Text.LetterCase
/-!
How settings variables are read. The rules are the tracer's own unless a caller gives others beside
the settings, under names that start with an underscore and are no settings themselves.
-/

set_option autoImplicit false
set_option relaxedAutoImplicit false

namespace Tracing

/-- How settings variables are read. -/
structure VariableRules where
  /-- The words in front of every variable. -/
  front : String := "TRACEGATE_"
  /-- What leads from a group into its members; nothing does where it is empty. -/
  delimiter : String := "__"
  /-- Into how many parts a name is cut at most, if that is limited. -/
  mostParts : Option Nat := none
  /-- Whether capitals and small letters differ. -/
  exactCase : Bool := false
  /-- Whether empty variables count for nothing. -/
  skipsEmpty : Bool := false
  /-- The text that stands for no value. -/
  nullText : Option String := none
  /-- Whether choices may be given by their written names. -/
  admitsChoiceNames : Bool := false

namespace VariableRules

/-- Members that say where else settings might be found; nothing is found there. -/
def sourceNames : List String :=
  ["_nested_model_default_partial_update", "_env_prefix_target", "_env_file", "_env_file_encoding",
    "_cli_prog_name", "_cli_parse_args", "_cli_settings_source", "_cli_parse_none_str",
    "_cli_hide_none_type", "_cli_avoid_json", "_cli_enforce_required",
    "_cli_use_class_docs_for_groups", "_cli_exit_on_error", "_cli_prefix", "_cli_flag_prefix_char",
    "_cli_implicit_flags", "_cli_ignore_unknown_args", "_cli_kebab_case", "_cli_shortcuts",
    "_secrets_dir", "_build_sources"]

def ruleNames : List String :=
  ["_env_prefix", "_env_nested_delimiter", "_env_nested_max_split", "_case_sensitive",
    "_env_ignore_empty", "_env_parse_none_str", "_env_parse_enums"]

def isReserved (name : String) : Bool := sourceNames.contains name || ruleNames.contains name

/-- Whether a value names files: a text, or a list of texts. -/
def namesFiles : Json → Bool
  | .null | .text _ | .object _ => true
  | .array items => items.all fun v => (v matches .text _)
  | _ => false

/-- A number of parts; none where the number sets no limit. -/
def partsOf (v : Json) : Except SettingsFault (Option Nat) :=
  match v.toNumber?.bind Number.toInt? with
  | some n => .ok (if 0 < n then some n.toNat else none)
  | none => if v.isPresent then .error .wrongType else .ok none

def misplaceSecrets (members : List (String × Json)) : Bool :=
  (Json.lookup "_secrets_dir" members).any fun v => !namesFiles v

/-- The rules that members ask for. Null asks for the tracer's own. -/
def ofMembers (members : List (String × Json)) : Except SettingsFault VariableRules := do
  let given (name : String) : Option Json :=
    (Json.lookup name members).filter fun v => !(v matches .null)
  let flag (name : String) : Bool := (given name).any Json.isPresent
  if !(given "_env_file").all namesFiles then .error .wrongType
  let mostParts ← ((given "_env_nested_max_split").mapM partsOf)
  let standard : VariableRules := {}
  let front ←
    match given "_env_prefix" with
    | none => .ok standard.front
    | some (.text s) => .ok s
    | some _ => .error .unusableFront
  let delimiter :=
    match given "_env_nested_delimiter" with
    | none => standard.delimiter
    | some (.text s) => s
    | some _ => ""
  let nullText :=
    match given "_env_parse_none_str" with
    | some (.text s) => some s
    | _ => none
  return {
    front, delimiter, nullText
    mostParts := mostParts.join
    exactCase := flag "_case_sensitive"
    skipsEmpty := flag "_env_ignore_empty"
    admitsChoiceNames := flag "_env_parse_enums" }

def folded (rules : VariableRules) (name : String) : String :=
  if rules.exactCase then name else Text.lower name

end VariableRules

end Tracing
