import DeferredJobs.Json.Printer
import DeferredJobs.Text.Blank
import DeferredJobs.Text.Case

/-!
# Settings from the environment

Which handlers are registered, how texts are laid out, and in which format the log is kept. A
flag is `true` or `false`, with blanks around it or not; any other value leaves the default.
-/

namespace DeferredJobs

structure Settings where
  layout : Layout := .compact
  historyCleanup : Bool := true
  batchHandlers : Bool := true
  deriving DecidableEq

/-- The variables of a process and their values. -/
abbrev Environment := String → Option String

def Environment.flag (environment : Environment) (name : String) (default : Bool) : Bool :=
  match environment name with
  | none => default
  | some value =>
    let word := Text.trim value.toList
    if word = "true".toList then true else if word = "false".toList then false else default

def Settings.ofEnvironment (environment : Environment) : Settings where
  layout := .ofPretty (environment.flag "JOBCFG_PRETTY_JSON" false)
  historyCleanup := environment.flag "JOBCFG_HISTORY_CLEANUP" true
  batchHandlers := environment.flag "JOBCFG_BATCH_HANDLERS" true

inductive LogFormat where
  | json
  | compact
  deriving DecidableEq

/-- The compact format has to be asked for, in either case. -/
def LogFormat.ofEnvironment (environment : Environment) : LogFormat :=
  match environment "JOBCFG_LOG_FORMAT" with
  | some value =>
    if Text.equalIgnoringCase (Text.trim value.toList) "compact".toList then .compact else .json
  | none => .json

end DeferredJobs
