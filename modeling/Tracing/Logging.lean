import Tracing.Fault
import Tracing.Text.LetterCase
/-!
Logs of an application that embeds the tracer. Settings choose a threshold and a chain of steps;
each step takes an event's members and hands them on, and the last one writes them.
-/

set_option autoImplicit false
set_option relaxedAutoImplicit false

namespace Tracing.Logging

/-- The threshold as chosen: by name, by number, or left as it is. -/
inductive Threshold where
  | named (name : String)
  | numbered (n : Number)
  | unchanged

def thresholds : List (String × Int) :=
  [("CRITICAL", 50), ("FATAL", 50), ("ERROR", 40), ("WARN", 30), ("WARNING", 30), ("INFO", 20),
    ("DEBUG", 10), ("NOTSET", 0)]

namespace Threshold

/-- A threshold from a value. Numbers have to be whole. -/
def ofJson : Json → Except Fault Threshold
  | .null => .ok unchanged
  | .text s => .ok (named s)
  | .integer n => .ok (numbered (.integer n))
  | .truth b => .ok (numbered (.truth b))
  | _ => .error .wrongType

/-- The number of a threshold; names count in any case. -/
def number? : Threshold → Except Fault Number
  | numbered n => .ok n
  | unchanged => .ok (.integer 30)
  | named name =>
    let capital := Text.upper name
    match thresholds.find? fun (k, _) => k = capital with
    | some (_, n) => .ok (.integer n)
    | none => .error (.invalidValue ("Unknown level: " ++ Text.shown ("Level " ++ capital)))

end Threshold

/-- How grave a logged event is. -/
inductive Severity where
  | debug
  | info
  | warning
  | error
  | critical
  deriving DecidableEq

namespace Severity

def name : Severity → String
  | debug => "debug"
  | info => "info"
  | warning => "warning"
  | error => "error"
  | critical => "critical"

def number : Severity → Int
  | debug => 10
  | info => 20
  | warning => 30
  | error => 40
  | critical => 50

/-- The severity an event is logged with; some have two names. -/
def ofName? : String → Option Severity
  | "debug" => some debug
  | "info" => some info
  | "warning" => some warning
  | "warn" => some warning
  | "error" => some error
  | "exception" => some error
  | "critical" => some critical
  | "fatal" => some critical
  | _ => none

end Severity

/-- A step of the chain. -/
inductive Processor where
  | filterByLevel
  | addLevel
  | addLoggerName
  | addTime
  | addService (service : Json)
  | renderStack
  | renderException
  | writeJson
  | writeConsole

namespace Processor

def name : Processor → String
  | filterByLevel => "filter_by_level"
  | addLevel => "add_log_level"
  | addLoggerName => "add_logger_name"
  | addTime => "TimeStamper"
  | addService _ => "add_service_context_processor.<locals>.processor"
  | renderStack => "StackInfoRenderer"
  | renderException => "ExceptionRenderer"
  | writeJson => "JSONRenderer"
  | writeConsole => "ConsoleRenderer"

end Processor

def withService (service : Json) (members : List (String × Json)) : List (String × Json) :=
  match Json.lookup "service" members with
  | some _ => members
  | none => members ++ [("service", service)]

/-- Logging as configured. -/
structure Configuration where
  threshold : Number
  processors : List Processor

/-- An event as logged by an application. An event may have no text. -/
structure Event where
  severity : Severity
  text : Json
  fields : List (String × Json)

/-- Why an event cannot be logged. -/
inductive EventFault where
  | reservedField
  | unknownSeverity
  | foreignRecord

/-- Names that fields may not have: they are taken by the logging call. -/
def reservedFields : List String := ["self", "event", "method_name"]

def Event.ofJson : Json → Except EventFault Event
  | .array [.text level, text, .object fields] =>
    match Severity.ofName? level with
    | none => .error .unknownSeverity
    | some severity =>
      if fields.any fun (k, _) => reservedFields.contains k then .error .reservedField
      else .ok ⟨severity, text, fields⟩
  | _ => .error .reservedField

/-- Configures logging. A service without a name is not named in events. -/
def configure (threshold : Threshold) (asJson : Bool) (service : Json) :
    Except Fault Configuration :=
  threshold.number?.map fun threshold =>
    let naming := if service.isPresent then [Processor.addService service] else []
    let writing :=
      if asJson then [Processor.renderException, Processor.writeJson] else [Processor.writeConsole]
    { threshold
      processors := [Processor.filterByLevel, .addLevel, .addLoggerName, .addTime] ++ naming ++
        [Processor.renderStack] ++ writing }

/-- The threshold, unless said otherwise. -/
def standardThreshold : Threshold := .named "INFO"

namespace Configuration

def admits (c : Configuration) (severity : Severity) : Bool :=
  c.threshold.le (.integer severity.number)

def without (name : String) (members : List (String × Json)) : List (String × Json) :=
  members.filter fun (k, _) => k ≠ name

/-- What a step makes of the members of an event that is grave enough. The time of logging is left
out, and so are the stack and the exception, of which there is none. -/
def apply (logger : String) (severity : Severity) (members : List (String × Json)) :
    Processor → Except EventFault (List (String × Json))
  | .addLevel => .ok (Json.put "level" (.text severity.name) members)
  | .addLoggerName =>
    match Json.lookup "_record" members with
    | none | some .null => .ok (Json.put "logger" (.text logger) members)
    | some _ => .error .foreignRecord
  | .addTime => .ok (without "timestamp" members)
  | .addService service => .ok (withService service members)
  | .renderStack => .ok (without "stack_info" members)
  | .renderException => .ok (without "exc_info" members)
  | .filterByLevel | .writeJson | .writeConsole => .ok members

/-- The members of the line written for an event; none where the event is dropped. -/
def line? (c : Configuration) (logger : String) (e : Event) :
    Except EventFault (Option (List (String × Json))) :=
  if !c.admits e.severity then .ok none else
  let text :=
    match e.text with
    | .null => []
    | text => [("event", text)]
  (c.processors.foldlM (apply logger e.severity) (e.fields ++ text)).map some

/-- The members of the lines written for events, up to the first that cannot be logged. -/
def lines (c : Configuration) (logger : String) (events : List Json) :
    Except EventFault (List (List (String × Json))) := do
  let written ← events.mapM fun j => do
    let e ← Event.ofJson j
    c.line? logger e
  return written.filterMap id

end Configuration

mutual

/-- A value as a line shows it: bytes as messages show them. -/
def lineValue : Json → Json
  | .bytes b => .text (Text.shownBytes b)
  | .array items => .array (lineItems items)
  | .object members => .object (lineMembers members)
  | v => v

def lineItems : List Json → List Json
  | [] => []
  | v :: rest => lineValue v :: lineItems rest

def lineMembers : List (String × Json) → List (String × Json)
  | [] => []
  | (k, v) :: rest => (k, lineValue v) :: lineMembers rest

end

end Tracing.Logging
