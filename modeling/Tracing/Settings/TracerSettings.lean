import Tracing.Settings.SamplerSettings
import Tracing.Settings.ReporterSettings
import Tracing.Settings.Environment
import Tracing.Settings.Folder
import Tracing.Pipeline
/-!
Settings of a whole tracer: read from given values over environment variables, loaded from a file,
saved to a file, and built into a pipeline.
-/

set_option autoImplicit false
set_option relaxedAutoImplicit false

namespace Tracing

/-- Settings of a tracer for one service. -/
structure TracerSettings where
  service : String
  metricsPrefix : String := Metrics.defaultPrefix
  sampler : SamplerSettings := {}
  reporter : ReporterSettings := {}
  deriving DecidableEq

namespace TracerSettings

open Conversion

def memberNames : List String := ["service_name", "metrics_prefix", "sampler", "reporter"]

def samplerNames : List String :=
  ["type", "param", "manager_host_port", "polling_interval", "max_operations", "http_timeout"]

def reporterNames : List String :=
  ["log_spans", "flush_interval", "max_queue_size", "close_enqueue_timeout", "close_drain_timeout",
    "endpoint", "auth_token", "max_batch_size", "http_timeout", "filter_spans_under_micros",
    "defer_spans_under_micros"]

/-- Reads settings; a member that is not known is a violation. -/
def ofMembers (ms : List (String × Json)) : Checked TracerSettings :=
  let service := required ms ["service_name"] fun v => .ofProblem (nonemptyText v)
  let pre := withDefault ms ["metrics_prefix"] Metrics.defaultPrefix fun v => .ofProblem (text v)
  let sampler := withDefault ms ["sampler"] {} SamplerSettings.ofJson
  let reporter := withDefault ms ["reporter"] {} ReporterSettings.ofJson
  if ms.any fun (_, v) => v matches .misnamed then .error [⟨[], .brokenText⟩] else
  let unknown := ms.filter fun (k, _) => !memberNames.contains k
  let known : Checked Unit :=
    if unknown.isEmpty then .ok ()
    else .error (unknown.map fun (k, _) => ⟨[.member k], .unexpectedMember⟩)
  (service.both (pre.both (sampler.both (reporter.both known)))).map
    fun (s, p, m, r, _) => ⟨s, p, m, r⟩

/-- A sampler's choice by its written name, where the rules admit that. -/
def choiceByName (rules : VariableRules) (path : List String) (v : Json) : Json :=
  match path.map rules.folded, v with
  | ["type"], .text s =>
    match SamplerChoice.writtenNames.find? fun (name, _) => name = s with
    | some (_, choice) => if rules.admitsChoiceNames then .text choice.name else v
    | none => v
  | _, _ => v

def environmentMembers (rules : VariableRules) (env : Environment) :
    Except SettingsFault (List (String × Json)) := do
  let vars := env.normalized rules
  let plain (name : String) : List (String × Json) :=
    match Json.lookup (Environment.variableOf rules name) vars with
    | some v => [(name, v)]
    | none => []
  let group (name : String) (known : List String) : Except SettingsFault (List (String × Json)) :=
    (Environment.group? rules vars known name (choiceByName rules)).map fun v =>
      (v.map fun v => (name, v)).toList
  let sampler ← group "sampler" samplerNames
  let reporter ← group "reporter" reporterNames
  return plain "service_name" ++ plain "metrics_prefix" ++ sampler ++ reporter

def create (given : List (String × Json)) (env : Environment) :
    Except SettingsFault TracerSettings := do
  let given := Json.distinct given
  let rules ← VariableRules.ofMembers given
  let below ← environmentMembers rules env
  if VariableRules.misplaceSecrets given then .error .wrongType
  let settings := given.filter fun (k, _) => !VariableRules.isReserved k
  let above := Environment.foldGiven rules memberNames settings
  (ofMembers (Environment.overlayMembers below above)).mapError .invalid

def toJson (s : TracerSettings) : Json :=
  .object [
    ("service_name", .text s.service),
    ("metrics_prefix", .text s.metricsPrefix),
    ("sampler", s.sampler.toJson),
    ("reporter", s.reporter.toJson)]

def save (s : TracerSettings) : String := s.toJson.render .saved

def integers (s : TracerSettings) : List Int :=
  [s.sampler.maxOperations, s.reporter.maxQueueSize, s.reporter.maxBatchSize,
    s.reporter.filterBelow, s.reporter.deferBelow]

/-- Writes settings to the text of a file, unless an integer has more digits than are written. -/
def write (s : TracerSettings) : Except SettingsFault String :=
  if s.integers.all fun n => (decimalDigits n.natAbs).length ≤ Json.integerDigitLimit then
    .ok s.save
  else
    .error .unwritableInteger

/-- Settings from the text of a file over environment variables. -/
def load (payload : Payload) (env : Environment) : Except SettingsFault TracerSettings :=
  match payload, payload.chars? with
  | .neither, _ => .error .wrongType
  | _, none => .error .notText
  | _, some cs =>
    match Json.read .settings cs with
    | .error .malformed => .error .notJson
    | .error .tooDeep => .error .tooDeep
    | .error (.overlong digits) => .error (.overlongInteger digits)
    | .ok (.object given) => create given env
    | .ok _ => .error .wrongType

def loadFile (folder : Folder) (path : String) (env : Environment) :
    Except SettingsFault TracerSettings :=
  let path := FilePath.ofText path
  match folder.place path with
  | .file content => load content env
  | .folder => .error .notAFile
  | .nothing => .error (.missingFile path.text)
  | .tooLong => .error .unreachablePath

def same (a b : TracerSettings) : Bool :=
  a.service == b.service && a.metricsPrefix == b.metricsPrefix && a.sampler.same b.sampler &&
    a.reporter.same b.reporter

/-- The pipeline of settings. The sampler is built first, and a remote one polls once. -/
def build (s : TracerSettings) (metered : Bool) (sender : Option Sender) (h : Host) :
    Except Fault Pipeline × Host :=
  match s.sampler.createSampler (.text s.service) metered h with
  | (.error f, h) => (.error f, h)
  | (.ok sampler, h) =>
    (((s.reporter.createReporter metered sender).map fun reporter =>
      { service := .text s.service, metricsPrefix := s.metricsPrefix, sampler, reporter,
        metered }), h)

end TracerSettings

end Tracing
