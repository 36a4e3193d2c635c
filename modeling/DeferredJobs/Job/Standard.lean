import DeferredJobs.Batch.Format
import DeferredJobs.Job.Handler
import DeferredJobs.Suspension.Configuration

/-!
# The standard jobs

Eleven types of jobs: timed changes of the state of definitions, the cleanup of the history, and
batches. Each has a payload, the format of that payload, and the command that a payload amounts
to.
-/

namespace DeferredJobs

inductive StandardJob where
  | activateJobDefinition | suspendJobDefinition
  | activateProcessDefinition | suspendProcessDefinition
  | historyCleanup
  | migration | modification | restart
  | setJobRetries | setExternalTaskRetries
  | deleteHistoricDecisionInstances
  deriving DecidableEq

namespace StandardJob

def stateChanges : List StandardJob :=
  [activateJobDefinition, suspendJobDefinition, activateProcessDefinition, suspendProcessDefinition]

def batches : List StandardJob :=
  [migration, modification, restart, setJobRetries, setExternalTaskRetries,
    deleteHistoricDecisionInstances]

def all : List StandardJob :=
  stateChanges ++ historyCleanup :: batches

/-- The type that records of such a job carry. -/
def type : StandardJob → String
  | activateJobDefinition => "activate-job-definition"
  | suspendJobDefinition => "suspend-job-definition"
  | activateProcessDefinition => "activate-processdefinition"
  | suspendProcessDefinition => "suspend-processdefinition"
  | historyCleanup => "history-cleanup"
  | migration => "instance-migration"
  | modification => "instance-modification"
  | restart => "instance-restart"
  | setJobRetries => "set-job-retries"
  | setExternalTaskRetries => "set-external-task-retries"
  | deleteHistoricDecisionInstances => "historic-decision-instance-deletion"

def ofType? (type : String) : Option StandardJob :=
  all.find? (·.type == type)

/-- The state that a timed change sets. -/
def state? : StandardJob → Option ActivationState
  | activateJobDefinition | activateProcessDefinition => some .active
  | suspendJobDefinition | suspendProcessDefinition => some .suspended
  | _ => none

@[reducible] def Payload : StandardJob → Type
  | activateJobDefinition | suspendJobDefinition => JobDefinitionSuspension
  | activateProcessDefinition | suspendProcessDefinition => ProcessDefinitionSuspension
  | historyCleanup => Cleanup
  | migration => Batch.Migration
  | modification => Batch.Modification
  | restart => Batch.Restart
  | setJobRetries | setExternalTaskRetries => Batch.Retries
  | deleteHistoricDecisionInstances => Batch.Deletion

def format : (job : StandardJob) → Format job.Payload
  | activateJobDefinition | suspendJobDefinition => JobDefinitionSuspension.format
  | activateProcessDefinition | suspendProcessDefinition => ProcessDefinitionSuspension.format
  | historyCleanup => Cleanup.format
  | migration => Batch.Migration.format
  | modification => Batch.Modification.format
  | restart => Batch.Restart.format
  | setJobRetries => Batch.Retries.jobFormat
  | setExternalTaskRetries => Batch.Retries.externalTaskFormat
  | deleteHistoricDecisionInstances => Batch.Deletion.format

def requestError (result : Except RequestFault α) : Except JobError α :=
  result.mapError fun fault => .command (.invalidRequest fault)

/-- The change that a configuration asks for, without an entry in the audit log. -/
def jobDefinitionCommand (state : ActivationState) (c : JobDefinitionSuspension) :
    Except JobError EngineCommand := do
  let request ← c.request.mapError .configuration
  let command ← requestError (request.command state)
  return .setJobDefinitionState command.withoutAudit

/-- The change that a configuration asks for, without an entry in the audit log. -/
def processDefinitionCommand (state : ActivationState) (c : ProcessDefinitionSuspension) :
    Except JobError EngineCommand := do
  let request ← c.request.mapError .configuration
  let command ← requestError (request.command state)
  return .setProcessDefinitionState command.withoutAudit

def command : (job : StandardJob) → job.Payload → Except JobError EngineCommand
  | activateJobDefinition => jobDefinitionCommand .active
  | suspendJobDefinition => jobDefinitionCommand .suspended
  | activateProcessDefinition => processDefinitionCommand .active
  | suspendProcessDefinition => processDefinitionCommand .suspended
  | historyCleanup => fun c => .ok (.historyCleanup c)
  | migration => fun b => .ok (.migrateProcessInstances b)
  | modification => fun b => .ok (.modifyProcessInstances b)
  | restart => fun b => .ok (.restartProcessInstances b)
  | setJobRetries => fun b => .ok (.setJobRetries b)
  | setExternalTaskRetries => fun b => .ok (.setExternalTaskRetries b)
  | deleteHistoricDecisionInstances => fun b => .ok (.deleteHistoricDecisionInstances b)

def handler {σ : Type} (job : StandardJob) : JobHandler σ job.Payload :=
  .ofCommand job.type job.format job.command

end StandardJob

end DeferredJobs
