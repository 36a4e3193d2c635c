import DeferredJobs.Inspect.Picture
import DeferredJobs.Job.Registry

/-!
# Pictures of payloads and commands

How each kind of configuration and command is shown. The names of records and fields are those
that the readers of dry runs know.
-/

namespace DeferredJobs

open Picture

def TenantScope.picture : TenantScope → Picture
  | .notConsidered => word "NotConsidered"
  | .withoutTenant => word "WithoutTenant"
  | .tenant id => tuple "Tenant" [quoted id]

def Selector.picture : Selector → Picture
  | .jobDefinitionId => word "JobDefinitionId"
  | .processDefinitionId => word "ProcessDefinitionId"
  | .processDefinitionKey => word "ProcessDefinitionKey"
  | .unrecognized name => tuple "Unrecognized" [quoted name]

def ActivationState.picture : ActivationState → Picture
  | .active => word "Active"
  | .suspended => word "Suspended"

/-! ## Migration and modification -/

def MigrationInstruction.picture (i : MigrationInstruction) : Picture :=
  record "MigrationInstruction" [
    ("source_activity_id", quoted i.source), ("target_activity_id", quoted i.target),
    ("update_event_trigger", ofBool i.updateEventTrigger)] false

def MigrationPlan.picture (plan : MigrationPlan) : Picture :=
  record "MigrationPlan" [
    ("source_process_definition_id", quoted plan.source),
    ("target_process_definition_id", quoted plan.target),
    ("instructions", list (plan.instructions.map (·.picture)))] false

def ModificationInstruction.picture : ModificationInstruction → Picture
  | .startBefore id => record "StartBeforeActivity" [("activity_id", quoted id)] false
  | .startAfter id => record "StartAfterActivity" [("activity_id", quoted id)] false
  | .startTransition id => record "StartTransition" [("transition_id", quoted id)] false
  | .cancelAll id onlyActive =>
    record "CancelAllForActivity" [
      ("activity_id", quoted id),
      ("cancel_current_active_activity_instances", ofBool onlyActive)] false
  | .cancelActivityInstance processInstance id =>
    record "CancelActivityInstance" [
      ("process_instance_id", quoted processInstance), ("activity_instance_id", quoted id)] false
  | .cancelTransitionInstance processInstance id =>
    record "CancelTransitionInstance" [
      ("process_instance_id", quoted processInstance), ("transition_instance_id", quoted id)] false

/-! ## Batches -/

namespace Batch

def Deletion.picture (b : Deletion) : Picture :=
  record "BatchConfiguration" [("ids", ofStrings b.ids)] false

def Retries.picture (b : Retries) : Picture :=
  record "SetRetriesBatchConfiguration" [
    ("ids", ofStrings b.ids), ("retries", ofInt b.retries.toInt)] false

def Migration.picture (b : Migration) : Picture :=
  record "MigrationBatchConfiguration" [
    ("ids", ofStrings b.ids), ("migration_plan", b.plan.picture),
    ("skip_custom_listeners", ofBool b.skipCustomListeners),
    ("skip_io_mappings", ofBool b.skipIoMappings)] false

def Modification.picture (b : Modification) : Picture :=
  record "ModificationBatchConfiguration" [
    ("ids", ofStrings b.ids), ("process_definition_id", quoted b.processDefinition),
    ("instructions", list (b.instructions.map (·.picture))),
    ("skip_custom_listeners", ofBool b.skipCustomListeners),
    ("skip_io_mappings", ofBool b.skipIoMappings)] false

def Restart.picture (b : Restart) : Picture :=
  record "RestartProcessInstancesBatchConfiguration" [
    ("ids", ofStrings b.ids), ("instructions", list (b.instructions.map (·.picture))),
    ("process_definition_id", quoted b.processDefinition),
    ("initial_variables", ofBool b.initialVariables),
    ("skip_custom_listeners", ofBool b.skipCustomListeners),
    ("skip_io_mappings", ofBool b.skipIoMappings),
    ("without_business_key", ofBool b.withoutBusinessKey)] false

end Batch

/-! ## Changes of state and cleanup -/

def JobDefinitionSuspension.picture (c : JobDefinitionSuspension) : Picture :=
  record "JobDefinitionSuspensionStateConfiguration" [
    ("by", c.selector.picture), ("job_definition_id", ofOption c.jobDefinitionId),
    ("process_definition_id", ofOption c.processDefinitionId),
    ("process_definition_key", ofOption c.processDefinitionKey),
    ("include_jobs", ofBool c.includeJobs),
    ("tenant", c.tenant.picture)] false

def ProcessDefinitionSuspension.picture (c : ProcessDefinitionSuspension) : Picture :=
  record "ProcessDefinitionSuspensionStateConfiguration" [
    ("by", c.selector.picture), ("process_definition_id", ofOption c.processDefinitionId),
    ("process_definition_key", ofOption c.processDefinitionKey),
    ("include_process_instances", ofBool c.includeProcessInstances),
    ("tenant", c.tenant.picture)] false

def ProcessDefinitionTarget.picture : ProcessDefinitionTarget → Picture
  | .id text => tuple "ProcessDefinitionId" [quoted text]
  | .key name tenant =>
    record "ProcessDefinitionKey" [("key", quoted name), ("tenant", tenant.picture)] false

def JobDefinitionTarget.picture : JobDefinitionTarget → Picture
  | .id text => tuple "JobDefinitionId" [quoted text]
  | .ofProcessDefinition target => target.picture

def SetJobDefinitionState.picture (c : SetJobDefinitionState) : Picture :=
  record "SetJobDefinitionStateCmd" [
    ("target", c.target.picture), ("state", c.state.picture),
    ("include_jobs", ofBool c.includeJobs), ("audit_logging", ofBool c.auditLogging)] false

def SetProcessDefinitionState.picture (c : SetProcessDefinitionState) : Picture :=
  record "SetProcessDefinitionStateCmd" [
    ("target", c.target.picture), ("state", c.state.picture),
    ("include_process_instances", ofBool c.includeProcessInstances),
    ("audit_logging", ofBool c.auditLogging)] false

def Cleanup.picture (c : Cleanup) : Picture :=
  record "HistoryCleanupJobHandlerConfiguration" [
    ("count_empty_runs", ofInt c.countEmptyRuns.toNat),
    ("immediately_due", ofBool c.immediatelyDue), ("minute_from", ofInt c.minuteFrom.val),
    ("minute_to", ofInt c.minuteTo.val)] false

def Cleanup.commandPicture (c : Cleanup) : Picture :=
  record "HistoryCleanupCmd" [
    ("immediately_due", ofBool c.immediatelyDue), ("minute_from", ofInt c.minuteFrom.val),
    ("minute_to", ofInt c.minuteTo.val), ("count_empty_runs", ofInt c.countEmptyRuns.toNat)] false

def EngineCommand.picture : EngineCommand → Picture
  | .setJobDefinitionState c => tuple "SetJobDefinitionState" [c.picture]
  | .setProcessDefinitionState c => tuple "SetProcessDefinitionState" [c.picture]
  | .historyCleanup c => tuple "HistoryCleanup" [c.commandPicture]
  | .migrateProcessInstances b => tuple "MigrateProcessInstances" [b.picture]
  | .modifyProcessInstances b => tuple "ModifyProcessInstances" [b.picture]
  | .restartProcessInstances b => tuple "RestartProcessInstances" [b.picture]
  | .setJobRetries b => tuple "SetJobRetries" [b.picture]
  | .setExternalTaskRetries b => tuple "SetExternalTaskRetries" [b.picture]
  | .deleteHistoricDecisionInstances b => tuple "DeleteHistoricDecisionInstances" [b.picture]

/-! ## Handlers -/

namespace StandardJob

/-- A batch is shown as part of the job it belongs to. -/
def batchPicture (inner : Picture) : Picture :=
  record "BatchJobConfiguration" [("configuration", inner)] true

def payloadPicture : (job : StandardJob) → job.Payload → Picture
  | activateJobDefinition | suspendJobDefinition => JobDefinitionSuspension.picture
  | activateProcessDefinition | suspendProcessDefinition => ProcessDefinitionSuspension.picture
  | historyCleanup => Cleanup.picture
  | migration => fun b => batchPicture b.picture
  | modification => fun b => batchPicture b.picture
  | restart => fun b => batchPicture b.picture
  | setJobRetries | setExternalTaskRetries => fun b => batchPicture b.picture
  | deleteHistoricDecisionInstances => fun b => batchPicture b.picture

/-- The handler of a batch. -/
def batchHandlerPicture (job : StandardJob) : Picture :=
  record "BatchJobHandler" [("handler_type", quoted job.type)] true

end StandardJob

def Layout.picture (layout : Layout) : Picture :=
  record "JsonCodec" [
    ("options", record "CodecOptions" [("pretty", ofBool layout.isPretty)] false)] false

def Registry.picture {σ : Type} (registry : Registry σ) : Picture :=
  record "JobHandlerRegistry" [
    ("codec", registry.layout.picture), ("handlers", ofStrings registry.types)] false

end DeferredJobs
