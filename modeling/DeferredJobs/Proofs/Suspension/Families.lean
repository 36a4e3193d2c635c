import DeferredJobs.Proofs.Configuration.Field
import DeferredJobs.Proofs.Job.Execution

/-!
# The two families of state changes

Job definitions are changed by the process definitions they belong to, or by ids of their own.
Where the configuration does not select by such an id, the target is read from fields that both
families share, so a configuration means the same target to both. What one family has to itself,
the id of a job definition and either flag, only matters to the other where it is of a wrong
type.

* `Object.processDefinitionTarget`: what an object says to both families.
* `ActivationState.commandOf_jobDefinitionJob`, `ActivationState.commandOf_processDefinitionJob`:
  the commands of the families, in terms of it.
* `ActivationState.attempts_agree`: the families agree on every object that either could mean.
-/

namespace DeferredJobs

open Object

/-! ## Shared targets -/

/-- What the fields that both families read amount to. Faults are found in the order of reading. -/
def Object.processDefinitionTarget (o : Object) :
    Except ConfigurationError ProcessDefinitionTarget := do
  let name ← o.require .string "by"
  let processDefinitionId ← o.get? .string "processDefinitionId"
  let processDefinitionKey ← o.get? .string "processDefinitionKey"
  let tenant ← o.tenant "processDefinitionTenantId"
  ProcessDefinitionSuspension.target {
    selector := Selector.ofName name, processDefinitionId, processDefinitionKey,
    includeProcessInstances := false, tenant }

/-- The families resolve a selector alike, unless it is the id of a job definition. -/
theorem JobDefinitionSuspension.target_eq {selector : Selector}
    (hSelector : selector ≠ .jobDefinitionId) (id processId key : Option String)
    (includeJobs includeProcessInstances : Bool) (tenant : TenantScope) :
    (JobDefinitionSuspension.mk selector id processId key includeJobs tenant).target =
      (ProcessDefinitionSuspension.mk selector processId key includeProcessInstances
        tenant).target.map .ofProcessDefinition := by
  cases selector with
  | jobDefinitionId => exact absurd rfl hSelector
  | processDefinitionId => cases processId <;> rfl
  | processDefinitionKey => cases key <;> rfl
  | unrecognized name => rfl

theorem Selector.ofName_ne_jobDefinitionId {name : String}
    (h : name ≠ Selector.jobDefinitionId.name) : ofName name ≠ .jobDefinitionId := by
  intro hSelector
  apply h
  rw [← name_ofName name, hSelector]

theorem ProcessDefinitionSuspension.target_of_read {o : Object} {includeProcessInstances : Bool}
    (hFlag : o.flag "includeProcessInstances" false = .ok includeProcessInstances) :
    (format.read o >>= fun c => c.target.map fun target => (target, c.includeProcessInstances)) =
      o.processDefinitionTarget.map fun target => (target, includeProcessInstances) := by
  simp only [format, processDefinitionTarget, hFlag]
  cases o.require .string "by" with
  | error e => rfl
  | ok name =>
    cases o.get? .string "processDefinitionId" with
    | error e => rfl
    | ok id =>
      cases o.get? .string "processDefinitionKey" with
      | error e => rfl
      | ok key =>
        cases o.tenant "processDefinitionTenantId" with
        | error e => rfl
        | ok tenant => rfl

theorem JobDefinitionSuspension.target_of_read {o : Object} {id : Option String}
    {includeJobs : Bool} (hBy : o.find? "by" ≠ some (.string Selector.jobDefinitionId.name))
    (hId : o.get? .string "jobDefinitionId" = .ok id)
    (hFlag : o.flag "includeJobs" false = .ok includeJobs) :
    (format.read o >>= fun c => c.target.map fun target => (target, c.includeJobs)) =
      o.processDefinitionTarget.map fun target => (.ofProcessDefinition target, includeJobs) := by
  simp only [format, processDefinitionTarget, hId, hFlag]
  cases hName : o.require .string "by" with
  | error e => rfl
  | ok name =>
    have hSelector : Selector.ofName name ≠ .jobDefinitionId := by
      apply Selector.ofName_ne_jobDefinitionId
      rintro rfl
      exact hBy ((require_ok_iff FieldType.exact_string).1 hName)
    cases o.get? .string "processDefinitionId" with
    | error e => rfl
    | ok processId =>
      cases o.get? .string "processDefinitionKey" with
      | error e => rfl
      | ok key =>
        cases o.tenant "processDefinitionTenantId" with
        | error e => rfl
        | ok tenant =>
          simp only [ok_bind]
          show ((JobDefinitionSuspension.mk (Selector.ofName name) id processId key includeJobs
            tenant).target.map _) = _
          rw [target_eq hSelector id processId key includeJobs false tenant]
          cases (ProcessDefinitionSuspension.mk (Selector.ofName name) processId key false
            tenant).target <;> rfl

/-! ## Commands -/

namespace StandardJob

theorem jobDefinitionCommand_eq (state : ActivationState) (c : JobDefinitionSuspension) :
    jobDefinitionCommand state c = (c.target.mapError .configuration).map fun target =>
      .setJobDefinitionState ⟨target, state, c.includeJobs, false⟩ := by
  obtain ⟨e, -, hTarget, hCommand⟩ | ⟨request, target, -, hTarget, hCommand⟩ :=
    jobDefinitionCommand_cases state c
  · rw [hCommand, hTarget]
    rfl
  · rw [hCommand, hTarget]
    rfl

theorem processDefinitionCommand_eq (state : ActivationState) (c : ProcessDefinitionSuspension) :
    processDefinitionCommand state c = (c.target.mapError .configuration).map fun target =>
      .setProcessDefinitionState ⟨target, state, c.includeProcessInstances, false⟩ := by
  obtain ⟨e, -, hTarget, hCommand⟩ | ⟨request, target, -, hTarget, hCommand⟩ :=
    processDefinitionCommand_cases state c
  · rw [hCommand, hTarget]
    rfl
  · rw [hCommand, hTarget]
    rfl

/-- The command that an object amounts to as the configuration of a job. -/
def commandOf (job : StandardJob) (o : Object) : Except JobError EngineCommand := do
  job.command (← (job.format.read o).mapError .configuration)

/-- One attempt at a job whose configuration is this object. -/
def attempt {σ : Type} (job : StandardJob) (o : Object) (context : CommandContext σ) (state : σ) :
    Except JobError Unit × σ :=
  match job.format.read o with
  | .error e => (.error (.configuration e), state)
  | .ok payload => job.handler.execute payload none none context state

section Attempt

variable {σ : Type} {job : StandardJob} {o : Object}

/-- Attempts at a record are attempts at the object that its text holds. -/
theorem run_eq_attempt {record : JobRecord} (h : Object.parse record.configuration = .ok o)
    (context : CommandContext σ) (state : σ) :
    job.handler.route.run record context state = job.attempt o context state := by
  have hParse : job.format.parse record.configuration = job.format.read o := by
    rw [Format.parse, h]
    rfl
  unfold attempt
  cases hRead : job.format.read o with
  | error e => exact JobHandler.run_of_unreadable (hParse.trans hRead) context state
  | ok payload => exact JobHandler.run_of_read (hParse.trans hRead) context state

theorem attempt_of_error {e : JobError} (h : job.commandOf o = .error e)
    (context : CommandContext σ) (state : σ) : job.attempt o context state = (.error e, state) := by
  unfold commandOf at h
  unfold attempt
  cases hRead : job.format.read o with
  | error e =>
    rw [hRead] at h
    cases h
    rfl
  | ok payload =>
    have hCommand : job.command payload = .error e := by
      rw [hRead] at h
      exact h
    exact JobHandler.execute_of_error hCommand none none context state

theorem attempt_of_ok {command : EngineCommand} (h : job.commandOf o = .ok command)
    (context : CommandContext σ) (state : σ) :
    job.attempt o context state =
      ((context command state).1.mapError .command, (context command state).2) := by
  unfold commandOf at h
  unfold attempt
  cases hRead : job.format.read o with
  | error e =>
    rw [hRead] at h
    cases h
  | ok payload =>
    have hCommand : job.command payload = .ok command := by
      rw [hRead] at h
      exact h
    exact JobHandler.execute_of_ok hCommand none none context state

end Attempt

end StandardJob

namespace ActivationState

/-- The job that sets the state of job definitions. -/
def jobDefinitionJob : ActivationState → StandardJob
  | active => .activateJobDefinition
  | suspended => .suspendJobDefinition

/-- The job that sets the state of process definitions. -/
def processDefinitionJob : ActivationState → StandardJob
  | active => .activateProcessDefinition
  | suspended => .suspendProcessDefinition

/-- To build a command from what a configuration holds is to build it from what an object holds. -/
theorem command_of_read {α τ : Type} (read : Except ConfigurationError α)
    (target : α → Except ConfigurationError τ) (flag : α → Bool)
    (build : τ → Bool → EngineCommand) :
    (read.mapError JobError.configuration >>= fun c =>
        ((target c).mapError .configuration).map fun found => build found (flag c)) =
      ((read >>= fun c => (target c).map fun found => (found, flag c)).mapError
        .configuration).map fun found => build found.1 found.2 := by
  cases read with
  | error e => rfl
  | ok c =>
    show Except.map _ ((target c).mapError _) = (((target c).map _).mapError _).map _
    cases target c <;> rfl

theorem commandOf_jobDefinitionJob (state : ActivationState) {o : Object} {id : Option String}
    {includeJobs : Bool} (hBy : o.find? "by" ≠ some (.string Selector.jobDefinitionId.name))
    (hId : o.get? .string "jobDefinitionId" = .ok id)
    (hFlag : o.flag "includeJobs" false = .ok includeJobs) :
    state.jobDefinitionJob.commandOf o =
      (o.processDefinitionTarget.mapError .configuration).map fun target =>
        .setJobDefinitionState ⟨.ofProcessDefinition target, state, includeJobs, false⟩ := by
  have hCommand : state.jobDefinitionJob.commandOf o =
      ((JobDefinitionSuspension.format.read o).mapError .configuration >>=
        StandardJob.jobDefinitionCommand state) := by
    cases state <;> rfl
  rw [hCommand, funext (StandardJob.jobDefinitionCommand_eq state),
    command_of_read _ JobDefinitionSuspension.target (·.includeJobs) fun target includeJobs =>
      .setJobDefinitionState ⟨target, state, includeJobs, false⟩,
    JobDefinitionSuspension.target_of_read hBy hId hFlag]
  cases o.processDefinitionTarget <;> rfl

theorem commandOf_processDefinitionJob (state : ActivationState) {o : Object}
    {includeProcessInstances : Bool}
    (hFlag : o.flag "includeProcessInstances" false = .ok includeProcessInstances) :
    state.processDefinitionJob.commandOf o =
      (o.processDefinitionTarget.mapError .configuration).map fun target =>
        .setProcessDefinitionState ⟨target, state, includeProcessInstances, false⟩ := by
  have hCommand : state.processDefinitionJob.commandOf o =
      ((ProcessDefinitionSuspension.format.read o).mapError .configuration >>=
        StandardJob.processDefinitionCommand state) := by
    cases state <;> rfl
  rw [hCommand, funext (StandardJob.processDefinitionCommand_eq state),
    command_of_read _ ProcessDefinitionSuspension.target (·.includeProcessInstances)
      fun target includeProcessInstances =>
        .setProcessDefinitionState ⟨target, state, includeProcessInstances, false⟩,
    ProcessDefinitionSuspension.target_of_read hFlag]
  cases o.processDefinitionTarget <;> rfl

/-- Fields of the right types leave the selector to decide. -/
theorem processDefinitionTarget_of_jobDefinitionId {o : Object}
    (hBy : o.find? "by" = some (.string Selector.jobDefinitionId.name))
    (hId : o.Optional .string "processDefinitionId")
    (hKey : o.Optional .string "processDefinitionKey")
    (hTenant : o.Optional .string "processDefinitionTenantId") :
    o.processDefinitionTarget = .error (.unknownSelector Selector.jobDefinitionId.name) := by
  have hName : o.require .string "by" = .ok Selector.jobDefinitionId.name :=
    require_of_find? hBy
  obtain ⟨id, hId⟩ := get?_of_optional hId
  obtain ⟨key, hKey⟩ := get?_of_optional hKey
  obtain ⟨tenant, hTenant⟩ := tenant_of_optional hTenant
  simp only [processDefinitionTarget, hName, hId, hKey, hTenant, ok_bind]
  rfl

/-- The jobs of both families read one target from an object and submit one command each for it, or
fail alike. Either flag only reaches the command of its own family. Only the families differ on
the id of a job definition, which the processes do not know. -/
theorem attempts_agree (state : ActivationState) (o : Object) (recorder : Recorder) :
    (∀ (job : StandardJob) (record : JobRecord), Object.parse record.configuration = .ok o →
      job.handler.route.run record Recorder.context recorder =
        job.attempt o Recorder.context recorder) ∧
    (o.Optional .string "jobDefinitionId" → o.Optional .boolean "includeJobs" →
      o.Optional .boolean "includeProcessInstances" →
      o.find? "by" ≠ some (.string "jobDefinitionId") →
      ∃ includeJobs includeProcessInstances,
        o.flag "includeJobs" false = .ok includeJobs ∧
        o.flag "includeProcessInstances" false = .ok includeProcessInstances ∧
        match o.processDefinitionTarget, recorder.rejectWith with
        | .error e, _ =>
          state.jobDefinitionJob.attempt o Recorder.context recorder =
            (.error (.configuration e), recorder) ∧
          state.processDefinitionJob.attempt o Recorder.context recorder =
            (.error (.configuration e), recorder)
        | .ok _, some reason =>
          state.jobDefinitionJob.attempt o Recorder.context recorder =
            (.error (.command (.rejected reason)), recorder) ∧
          state.processDefinitionJob.attempt o Recorder.context recorder =
            (.error (.command (.rejected reason)), recorder)
        | .ok target, none =>
          state.jobDefinitionJob.attempt o Recorder.context recorder =
            (.ok (), { recorder with commands := recorder.commands ++ [.setJobDefinitionState
              ⟨.ofProcessDefinition target, state, includeJobs, false⟩] }) ∧
          state.processDefinitionJob.attempt o Recorder.context recorder =
            (.ok (), { recorder with commands := recorder.commands ++ [.setProcessDefinitionState
              ⟨target, state, includeProcessInstances, false⟩] })) ∧
    (o.find? "by" = some (.string "jobDefinitionId") →
      o.Optional .string "processDefinitionId" → o.Optional .string "processDefinitionKey" →
      o.Optional .boolean "includeProcessInstances" →
      o.Optional .string "processDefinitionTenantId" →
      state.processDefinitionJob.attempt o Recorder.context recorder =
        (.error (.configuration (.unknownSelector "jobDefinitionId")), recorder)) := by
  refine ⟨fun job record hParse => StandardJob.run_eq_attempt hParse _ _, ?_, ?_⟩
  · intro hId hJobs hInstances hBy
    obtain ⟨id, hId⟩ := get?_of_optional hId
    obtain ⟨includeJobs, hJobs⟩ := flag_of_optional hJobs
    obtain ⟨includeProcessInstances, hInstances⟩ := flag_of_optional hInstances
    refine ⟨includeJobs, includeProcessInstances, hJobs, hInstances, ?_⟩
    have hJobCommand := commandOf_jobDefinitionJob state hBy hId hJobs
    have hProcessCommand := commandOf_processDefinitionJob state hInstances
    cases hTarget : o.processDefinitionTarget with
    | error e =>
      rw [hTarget] at hJobCommand hProcessCommand
      exact ⟨StandardJob.attempt_of_error hJobCommand _ _,
        StandardJob.attempt_of_error hProcessCommand _ _⟩
    | ok target =>
      rw [hTarget] at hJobCommand hProcessCommand
      rw [StandardJob.attempt_of_ok hJobCommand, StandardJob.attempt_of_ok hProcessCommand]
      cases hReject : recorder.rejectWith with
      | none => simp only [Recorder.context, hReject]; exact ⟨rfl, rfl⟩
      | some reason => simp only [Recorder.context, hReject]; exact ⟨rfl, rfl⟩
  · intro hBy hId hKey hInstances hTenant
    obtain ⟨includeProcessInstances, hInstances⟩ := flag_of_optional hInstances
    have hCommand := commandOf_processDefinitionJob state hInstances
    rw [processDefinitionTarget_of_jobDefinitionId hBy hId hKey hTenant] at hCommand
    exact StandardJob.attempt_of_error hCommand _ _

/-- A key counts, with no tenant, beside fields that do not; and an id that the processes do not
know. -/
theorem attempts_agree_key :
    ActivationState.suspended.jobDefinitionJob.attempt
        ((((Object.empty.put .string "by" "processDefinitionKey").put .string
          "processDefinitionKey" "").put .string "processDefinitionId" "p").putTenant
            "processDefinitionTenantId" .withoutTenant)
        Recorder.context {} =
      (.ok (), { commands := [.setJobDefinitionState
        ⟨.ofProcessDefinition (.key "" .withoutTenant), .suspended, false, false⟩] }) ∧
    ActivationState.suspended.processDefinitionJob.attempt
        ((((Object.empty.put .string "by" "processDefinitionKey").put .string
          "processDefinitionKey" "").put .string "processDefinitionId" "p").putTenant
            "processDefinitionTenantId" .withoutTenant)
        Recorder.context {} =
      (.ok (), { commands := [.setProcessDefinitionState
        ⟨.key "" .withoutTenant, .suspended, false, false⟩] }) ∧
    ActivationState.active.processDefinitionJob.attempt
        (Object.empty.put .string "by" "jobDefinitionId") Recorder.context {} =
      (.error (.configuration (.unknownSelector "jobDefinitionId")), {}) := by
  obtain ⟨-, hAgree, -⟩ := attempts_agree .suspended
    ((((Object.empty.put .string "by" "processDefinitionKey").put .string
      "processDefinitionKey" "").put .string "processDefinitionId" "p").putTenant
        "processDefinitionTenantId" .withoutTenant) {}
  obtain ⟨includeJobs, includeProcessInstances, hJobs, hInstances, hAttempts⟩ :=
    hAgree (by decide) (by decide) (by decide) (by decide)
  cases hJobs
  cases hInstances
  obtain ⟨-, -, hUnknown⟩ := attempts_agree .active
    (Object.empty.put .string "by" "jobDefinitionId") {}
  exact ⟨hAttempts.1, hAttempts.2,
    hUnknown (by decide) (by decide) (by decide) (by decide) (by decide)⟩

end ActivationState

end DeferredJobs
