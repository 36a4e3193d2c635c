import DeferredJobs.Batch.Configuration
import DeferredJobs.Cleanup
import DeferredJobs.Suspension.Request

/-!
# Commands for the engine

A job ends in a command, which a context carries out or refuses. A context is any function on a
state; the `Recorder` keeps the commands instead of carrying them out, or refuses every one.
-/

namespace DeferredJobs

inductive EngineCommand where
  | setJobDefinitionState (body : SetJobDefinitionState)
  | setProcessDefinitionState (body : SetProcessDefinitionState)
  | historyCleanup (body : Cleanup)
  | migrateProcessInstances (body : Batch.Migration)
  | modifyProcessInstances (body : Batch.Modification)
  | restartProcessInstances (body : Batch.Restart)
  | setJobRetries (body : Batch.Retries)
  | setExternalTaskRetries (body : Batch.Retries)
  | deleteHistoricDecisionInstances (body : Batch.Deletion)
  deriving DecidableEq

def EngineCommand.name : EngineCommand → String
  | setJobDefinitionState _ => "set-job-definition-state"
  | setProcessDefinitionState _ => "set-process-definition-state"
  | historyCleanup _ => "history-cleanup"
  | migrateProcessInstances _ => "migrate-process-instances"
  | modifyProcessInstances _ => "modify-process-instances"
  | restartProcessInstances _ => "restart-process-instances"
  | setJobRetries _ => "set-job-retries"
  | setExternalTaskRetries _ => "set-external-task-retries"
  | deleteHistoricDecisionInstances _ => "delete-historic-decision-instances"

inductive CommandError where
  /-- The parts of the request do not fit together. -/
  | invalidRequest (fault : RequestFault)
  /-- The context refused the command or failed on it. -/
  | rejected (reason : String)
  deriving DecidableEq

def CommandError.message : CommandError → String
  | invalidRequest fault => "invalid request: " ++ fault.message
  | rejected reason => "command rejected: " ++ reason

/-- Carries out commands on a state. -/
abbrev CommandContext (σ : Type) := EngineCommand → σ → Except CommandError Unit × σ

structure Recorder where
  commands : List EngineCommand := []
  /-- The reason for which every command is refused. -/
  rejectWith : Option String := none
  deriving DecidableEq

def Recorder.context : CommandContext Recorder := fun command recorder =>
  match recorder.rejectWith with
  | some reason => (.error (.rejected reason), recorder)
  | none => (.ok (), { recorder with commands := recorder.commands ++ [command] })

end DeferredJobs
