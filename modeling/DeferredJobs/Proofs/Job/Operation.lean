import DeferredJobs.Proofs.Job.Persistence

/-!
# Operations

The jobs of a type are there for one operation: a change of definitions to one of two states, the
cleanup of the history or a kind of batch. `Operation` lists the commands by the types as they are
written in records. The handler of a standard job submits the commands of its own type, all of them
and no others.

* `StandardJob.operation_of_command`, `StandardJob.exists_payload`: the commands of a type are those
  of the payloads of its job.
* `StandardJob.performs`: what the handler of a standard job submits.
-/

namespace DeferredJobs

variable {σ : Type}

/-! ## Commands by type -/

/-- The commands that the jobs of a type are there for. -/
inductive Operation : String → EngineCommand → Prop
  | activateJobDefinition (target : JobDefinitionTarget) (includeJobs : Bool) :
    Operation "activate-job-definition"
      (.setJobDefinitionState ⟨target, .active, includeJobs, false⟩)
  | suspendJobDefinition (target : JobDefinitionTarget) (includeJobs : Bool) :
    Operation "suspend-job-definition"
      (.setJobDefinitionState ⟨target, .suspended, includeJobs, false⟩)
  | activateProcessDefinition (target : ProcessDefinitionTarget) (includeInstances : Bool) :
    Operation "activate-processdefinition"
      (.setProcessDefinitionState ⟨target, .active, includeInstances, false⟩)
  | suspendProcessDefinition (target : ProcessDefinitionTarget) (includeInstances : Bool) :
    Operation "suspend-processdefinition"
      (.setProcessDefinitionState ⟨target, .suspended, includeInstances, false⟩)
  | historyCleanup (body : Cleanup) : Operation "history-cleanup" (.historyCleanup body)
  | migration (body : Batch.Migration) :
    Operation "instance-migration" (.migrateProcessInstances body)
  | modification (body : Batch.Modification) :
    Operation "instance-modification" (.modifyProcessInstances body)
  | restart (body : Batch.Restart) : Operation "instance-restart" (.restartProcessInstances body)
  | setJobRetries (body : Batch.Retries) : Operation "set-job-retries" (.setJobRetries body)
  | setExternalTaskRetries (body : Batch.Retries) :
    Operation "set-external-task-retries" (.setExternalTaskRetries body)
  | deleteHistoricDecisionInstances (body : Batch.Deletion) :
    Operation "historic-decision-instance-deletion" (.deleteHistoricDecisionInstances body)

namespace Route

variable (route : Route σ) (record : JobRecord)

/-- No attempt at the record reaches its context. -/
def Refuses : Prop :=
  ∃ e, ∀ context state, route.run record context state = (.error e, state)

/-- Every attempt at the record hands this command over and passes the answer on. -/
def Submits (command : EngineCommand) : Prop :=
  ∀ context state, route.run record context state =
    ((context command state).1.mapError .command, (context command state).2)

/-- The route is registered under its own type, and what it submits are the commands of this type. -/
structure Performs (type : String) : Prop where
  type_eq : route.type = type
  attempt : ∀ record, route.Refuses record ∨
    ∃ command, Operation type command ∧ route.Submits record command
  submits : ∀ command, Operation type command → ∃ record, route.Submits record command

end Route

/-! ## Standard handlers -/

/-- A record that is for no tenant and no execution. -/
def JobRecord.bare (type configuration : String) : JobRecord where
  id := ⟨0⟩
  handlerType := type
  configuration := configuration
  createdAt := ⟨0, 0⟩

namespace StandardJob

theorem operation_of_command {job : StandardJob} {payload : job.Payload} {command : EngineCommand}
    (h : job.command payload = .ok command) : Operation job.type command := by
  cases job with
  | activateJobDefinition | suspendJobDefinition =>
    obtain ⟨e, -, -, hCommand⟩ | ⟨request, target, -, -, hCommand⟩ :=
      jobDefinitionCommand_cases _ payload
    · cases h.symm.trans hCommand
    · cases h.symm.trans hCommand
      constructor
  | activateProcessDefinition | suspendProcessDefinition =>
    obtain ⟨e, -, -, hCommand⟩ | ⟨request, target, -, -, hCommand⟩ :=
      processDefinitionCommand_cases _ payload
    · cases h.symm.trans hCommand
    · cases h.symm.trans hCommand
      constructor
  | _ =>
    cases h
    constructor

/-- Every target can be configured. -/
theorem exists_jobDefinitionCommand (target : JobDefinitionTarget) (includeJobs : Bool) :
    ∃ c : JobDefinitionSuspension, c.selector.Proper ∧ ∀ state,
      jobDefinitionCommand state c =
        .ok (.setJobDefinitionState ⟨target, state, includeJobs, false⟩) := by
  cases target with
  | id id =>
    exact ⟨{ selector := .jobDefinitionId, jobDefinitionId := some id, includeJobs }, trivial,
      fun _ => rfl⟩
  | ofProcessDefinition target =>
    cases target with
    | id id =>
      exact ⟨{ selector := .processDefinitionId, processDefinitionId := some id, includeJobs },
        trivial, fun _ => rfl⟩
    | key key tenant =>
      exact ⟨{ selector := .processDefinitionKey, processDefinitionKey := some key, includeJobs,
               tenant }, trivial, fun _ => rfl⟩

theorem exists_processDefinitionCommand (target : ProcessDefinitionTarget)
    (includeProcessInstances : Bool) :
    ∃ c : ProcessDefinitionSuspension, c.selector.Proper ∧ ∀ state,
      processDefinitionCommand state c =
        .ok (.setProcessDefinitionState ⟨target, state, includeProcessInstances, false⟩) := by
  cases target with
  | id id =>
    exact ⟨{ selector := .processDefinitionId, processDefinitionId := some id,
             includeProcessInstances }, trivial, fun _ => rfl⟩
  | key key tenant =>
    exact ⟨{ selector := .processDefinitionKey, processDefinitionKey := some key,
             includeProcessInstances, tenant }, trivial, fun _ => rfl⟩

theorem exists_payload {job : StandardJob} {command : EngineCommand}
    (h : Operation job.type command) :
    ∃ payload : job.Payload, job.Proper payload ∧ job.command payload = .ok command := by
  generalize hType : job.type = type at h
  cases h with
  | activateJobDefinition target includeJobs =>
    obtain rfl : job = .activateJobDefinition := type_inj hType
    obtain ⟨c, hProper, hCommand⟩ := exists_jobDefinitionCommand target includeJobs
    exact ⟨c, hProper, hCommand .active⟩
  | suspendJobDefinition target includeJobs =>
    obtain rfl : job = .suspendJobDefinition := type_inj hType
    obtain ⟨c, hProper, hCommand⟩ := exists_jobDefinitionCommand target includeJobs
    exact ⟨c, hProper, hCommand .suspended⟩
  | activateProcessDefinition target includeInstances =>
    obtain rfl : job = .activateProcessDefinition := type_inj hType
    obtain ⟨c, hProper, hCommand⟩ := exists_processDefinitionCommand target includeInstances
    exact ⟨c, hProper, hCommand .active⟩
  | suspendProcessDefinition target includeInstances =>
    obtain rfl : job = .suspendProcessDefinition := type_inj hType
    obtain ⟨c, hProper, hCommand⟩ := exists_processDefinitionCommand target includeInstances
    exact ⟨c, hProper, hCommand .suspended⟩
  | historyCleanup body =>
    obtain rfl : job = .historyCleanup := type_inj hType
    exact ⟨body, trivial, rfl⟩
  | migration body =>
    obtain rfl : job = .migration := type_inj hType
    exact ⟨body, trivial, rfl⟩
  | modification body =>
    obtain rfl : job = .modification := type_inj hType
    exact ⟨body, trivial, rfl⟩
  | restart body =>
    obtain rfl : job = .restart := type_inj hType
    exact ⟨body, trivial, rfl⟩
  | setJobRetries body =>
    obtain rfl : job = .setJobRetries := type_inj hType
    exact ⟨body, trivial, rfl⟩
  | setExternalTaskRetries body =>
    obtain rfl : job = .setExternalTaskRetries := type_inj hType
    exact ⟨body, trivial, rfl⟩
  | deleteHistoricDecisionInstances body =>
    obtain rfl : job = .deleteHistoricDecisionInstances := type_inj hType
    exact ⟨body, trivial, rfl⟩

theorem submits_of_command {job : StandardJob} {payload : job.Payload} {command : EngineCommand}
    {record : JobRecord} (hParse : job.format.parse record.configuration = .ok payload)
    (hCommand : job.command payload = .ok command) :
    (job.handler (σ := σ)).route.Submits record command := by
  intro context state
  rw [JobHandler.run_of_read hParse]
  exact JobHandler.execute_of_ok hCommand _ _ context state

theorem performs (job : StandardJob) : (job.handler (σ := σ)).route.Performs job.type where
  type_eq := rfl
  attempt record := by
    cases hParse : job.format.parse record.configuration with
    | error e => exact .inl ⟨.configuration e, JobHandler.run_of_unreadable hParse⟩
    | ok payload =>
      cases hCommand : job.command payload with
      | error e =>
        refine .inl ⟨e, fun context state => ?_⟩
        rw [JobHandler.run_of_read hParse]
        exact JobHandler.execute_of_error hCommand _ _ context state
      | ok command =>
        exact .inr ⟨command, operation_of_command hCommand, submits_of_command hParse hCommand⟩
  submits command h := by
    obtain ⟨payload, hProper, hCommand⟩ := exists_payload h
    have hParse := job.lossless.parse_canonical hProper .compact
    exact ⟨.bare job.type (job.format.canonical .compact payload),
      submits_of_command hParse hCommand⟩

end StandardJob

end DeferredJobs
