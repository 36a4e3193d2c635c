import DeferredJobs.Proofs.Job.Routing
import DeferredJobs.Proofs.Suspension.Dispatch

/-!
# Attempts at jobs

An attempt at a record goes through four stages: the type must be known, the text of the
configuration must be readable, a selector must resolve, and the context must accept the command.
Only the last stage reaches the context, and it does so once. Hence there are two kinds of records.
The settings *refuse* a record if no attempt at it reaches the context, and *submit* a command for
it if every attempt hands this one command over and answers what the context answers.

* `StandardJob.command_cases`: a payload has a command exactly if its selector resolves.
* `Settings.Refuses.of_execute`, `Settings.Submits.of_execute`: repeated attempts only repeat what
  one attempt does.
* `Settings.execute_at_most_once`: which of the two applies, for every record.
-/

namespace DeferredJobs

/-! ## Commands of payloads -/

namespace StandardJob

/-- Resolves the selector of a state change. Other jobs have no selector. -/
def dispatch : (job : StandardJob) → job.Payload → Except ConfigurationError Unit
  | activateJobDefinition | suspendJobDefinition => fun c => c.request.map fun _ => ()
  | activateProcessDefinition | suspendProcessDefinition => fun c => c.request.map fun _ => ()
  | historyCleanup | migration | modification | restart | setJobRetries | setExternalTaskRetries
  | deleteHistoricDecisionInstances => fun _ => .ok ()

theorem jobDefinitionCommand_cases (state : ActivationState) (c : JobDefinitionSuspension) :
    (∃ e, c.request = .error e ∧ c.target = .error e ∧
      jobDefinitionCommand state c = .error (.configuration e)) ∨
    ∃ request target, c.request = .ok request ∧ c.target = .ok target ∧
      jobDefinitionCommand state c =
        .ok (.setJobDefinitionState ⟨target, state, c.includeJobs, false⟩) := by
  obtain ⟨e, hRequest, hTarget⟩ | ⟨request, target, hRequest, hTarget, hCommand⟩ := c.request_cases
  · refine .inl ⟨e, hRequest, hTarget, ?_⟩
    rw [jobDefinitionCommand, hRequest]
    rfl
  · refine .inr ⟨request, target, hRequest, hTarget, ?_⟩
    rw [jobDefinitionCommand, hRequest]
    show (do
      let command ← requestError (request.command state)
      return EngineCommand.setJobDefinitionState command.withoutAudit) = _
    rw [hCommand]
    rfl

theorem processDefinitionCommand_cases (state : ActivationState) (c : ProcessDefinitionSuspension) :
    (∃ e, c.request = .error e ∧ c.target = .error e ∧
      processDefinitionCommand state c = .error (.configuration e)) ∨
    ∃ request target, c.request = .ok request ∧ c.target = .ok target ∧
      processDefinitionCommand state c =
        .ok (.setProcessDefinitionState ⟨target, state, c.includeProcessInstances, false⟩) := by
  obtain ⟨e, hRequest, hTarget⟩ | ⟨request, target, hRequest, hTarget, hCommand⟩ := c.request_cases
  · refine .inl ⟨e, hRequest, hTarget, ?_⟩
    rw [processDefinitionCommand, hRequest]
    rfl
  · refine .inr ⟨request, target, hRequest, hTarget, ?_⟩
    rw [processDefinitionCommand, hRequest]
    show (do
      let command ← requestError (request.command state)
      return EngineCommand.setProcessDefinitionState command.withoutAudit) = _
    rw [hCommand]
    rfl

/-- A payload has a command exactly if its selector resolves. -/
theorem command_cases (job : StandardJob) (payload : job.Payload) :
    (∃ e, job.dispatch payload = .error e ∧ job.command payload = .error (.configuration e)) ∨
    ∃ command, job.dispatch payload = .ok () ∧ job.command payload = .ok command := by
  cases job with
  | activateJobDefinition | suspendJobDefinition =>
    obtain ⟨e, hRequest, -, hCommand⟩ | ⟨request, target, hRequest, -, hCommand⟩ :=
      jobDefinitionCommand_cases _ payload
    · exact .inl ⟨e, congrArg (Except.map fun _ => ()) hRequest, hCommand⟩
    · exact .inr ⟨_, congrArg (Except.map fun _ => ()) hRequest, hCommand⟩
  | activateProcessDefinition | suspendProcessDefinition =>
    obtain ⟨e, hRequest, -, hCommand⟩ | ⟨request, target, hRequest, -, hCommand⟩ :=
      processDefinitionCommand_cases _ payload
    · exact .inl ⟨e, congrArg (Except.map fun _ => ()) hRequest, hCommand⟩
    · exact .inr ⟨_, congrArg (Except.map fun _ => ()) hRequest, hCommand⟩
  | _ => exact .inr ⟨_, rfl, rfl⟩

end StandardJob

/-! ## Handlers and routes -/

namespace JobHandler

section Command

variable {σ α : Type} {type : String} {format : Format α}
  {command : α → Except JobError EngineCommand} {payload : α}

theorem execute_of_error {e : JobError} (h : command payload = .error e)
    (execution tenant : Option String) (context : CommandContext σ) (state : σ) :
    (ofCommand type format command).execute payload execution tenant context state =
      (.error e, state) := by
  simp only [ofCommand, h]

/-- The one place where a context is called. -/
theorem execute_of_ok {submitted : EngineCommand} (h : command payload = .ok submitted)
    (execution tenant : Option String) (context : CommandContext σ) (state : σ) :
    (ofCommand type format command).execute payload execution tenant context state =
      ((context submitted state).1.mapError .command, (context submitted state).2) := by
  simp only [ofCommand, h]
  obtain ⟨result, next⟩ := context submitted state
  cases result <;> rfl

end Command

section Route

variable {σ α : Type} {handler : JobHandler σ α} {record : JobRecord}

theorem run_of_unreadable {e : ConfigurationError}
    (h : handler.read record.configuration = .error e) (context : CommandContext σ) (state : σ) :
    handler.route.run record context state = (.error (.configuration e), state) := by
  simp only [route, h]

theorem run_of_read {payload : α} (h : handler.read record.configuration = .ok payload)
    (context : CommandContext σ) (state : σ) :
    handler.route.run record context state =
      handler.execute payload record.execution record.tenant context state := by
  simp only [route, h]

theorem delete_of_unreadable {e : ConfigurationError}
    (h : handler.read record.configuration = .error e) (state : σ) :
    handler.route.delete record state = (.error (.configuration e), state) := by
  simp only [route, h]

theorem delete_of_read {payload : α} (h : handler.read record.configuration = .ok payload)
    (state : σ) :
    handler.route.delete record state = (.ok (), handler.onDelete payload record state) := by
  simp only [route, h]

end Route

end JobHandler

/-! ## Attempts by what the text is read as -/

namespace Registry

variable {σ : Type} {settings : Settings} {record : JobRecord} {job : StandardJob}

theorem execute_of_unreadable {e : ConfigurationError}
    (hJob : settings.job? record.handlerType = some job)
    (hParse : job.format.parse record.configuration = .error e) (context : CommandContext σ)
    (state : σ) :
    (ofSettings settings).execute record context state = (.error (.configuration e), state) := by
  rw [execute_of_job? hJob]
  exact JobHandler.run_of_unreadable hParse context state

theorem execute_of_parse {payload : job.Payload}
    (hJob : settings.job? record.handlerType = some job)
    (hParse : job.format.parse record.configuration = .ok payload) (context : CommandContext σ)
    (state : σ) :
    (ofSettings settings).execute record context state =
      job.handler.execute payload record.execution record.tenant context state := by
  rw [execute_of_job? hJob]
  exact JobHandler.run_of_read hParse context state

theorem delete_of_unreadable {e : ConfigurationError}
    (hJob : settings.job? record.handlerType = some job)
    (hParse : job.format.parse record.configuration = .error e) (state : σ) :
    (ofSettings settings).delete record state = (.error (.configuration e), state) := by
  rw [delete_of_job? hJob]
  exact JobHandler.delete_of_unreadable hParse state

/-- No standard job takes note of a deletion. -/
theorem delete_of_parse {payload : job.Payload}
    (hJob : settings.job? record.handlerType = some job)
    (hParse : job.format.parse record.configuration = .ok payload) (state : σ) :
    (ofSettings settings).delete record state = (.ok (), state) := by
  rw [delete_of_job? hJob]
  exact JobHandler.delete_of_read hParse state

end Registry

/-! ## Repeated attempts -/

section Attempts

variable {σ : Type}

/-- Keeps the commands that a context is called with, whatever it answers. -/
def CommandContext.logged (context : CommandContext σ) : CommandContext (σ × List EngineCommand) :=
  fun command (state, calls) =>
    ((context command state).1, (context command state).2, calls ++ [command])

/-- The answers to attempts at a record, one after the other, and the state they leave. -/
def Registry.attempts (registry : Registry σ) (record : JobRecord) (context : CommandContext σ) :
    Nat → σ → List (Except JobError Unit) × σ
  | 0, state => ([], state)
  | n + 1, state =>
    let (result, next) := registry.execute record context state
    let (results, last) := attempts registry record context n next
    (result :: results, last)

theorem Registry.attempts_succ (registry : Registry σ) (record : JobRecord)
    (context : CommandContext σ) (n : Nat) {state next : σ} {result : Except JobError Unit}
    (h : registry.execute record context state = (result, next)) :
    registry.attempts record context (n + 1) state =
      (result :: (registry.attempts record context n next).1,
        (registry.attempts record context n next).2) := by
  rw [attempts, h]

end Attempts

namespace Settings

variable {settings : Settings} {record : JobRecord}

/-- No attempt at the record reaches its context, and every one fails with this error. -/
structure Refuses (settings : Settings) (record : JobRecord) (error : JobError) : Prop where
  execute : ∀ {σ : Type} (context : CommandContext σ) (state : σ),
    (Registry.ofSettings settings).execute record context state = (.error error, state)
  attempts : ∀ {σ : Type} (context : CommandContext σ) (n : Nat) (state : σ),
    (Registry.ofSettings settings).attempts record context n state =
      (List.replicate n (.error error), state)

/-- Every attempt at the record calls its context once, with this command, and passes on what the
context answers. -/
structure Submits (settings : Settings) (record : JobRecord) (command : EngineCommand) : Prop where
  execute : ∀ {σ : Type} (context : CommandContext σ) (state : σ),
    (Registry.ofSettings settings).execute record context state =
      ((context command state).1.mapError .command, (context command state).2)
  ok_iff : ∀ {σ : Type} (context : CommandContext σ) (state : σ),
    ((Registry.ofSettings settings).execute record context state).1 = .ok () ↔
      (context command state).1 = .ok ()
  /-- What the log adds to the plain attempts is one call each. -/
  attempts : ∀ {σ : Type} (context : CommandContext σ) (n : Nat) (state : σ)
    (calls : List EngineCommand),
    (Registry.ofSettings settings).attempts record context.logged n (state, calls) =
      (((Registry.ofSettings settings).attempts record context n state).1,
        ((Registry.ofSettings settings).attempts record context n state).2,
        calls ++ List.replicate n command)
  recorded : ∀ (n : Nat) (commands : List EngineCommand),
    (Registry.ofSettings settings).attempts record Recorder.context n { commands } =
      (List.replicate n (.ok ()), { commands := commands ++ List.replicate n command })
  rejected : ∀ (reason : String) (n : Nat) (commands : List EngineCommand),
    (Registry.ofSettings settings).attempts record Recorder.context n
        { commands, rejectWith := some reason } =
      (List.replicate n (.error (.command (.rejected reason))),
        { commands, rejectWith := some reason })

/-- To delete the record reaches no context and has this answer. -/
def Deletes (settings : Settings) (record : JobRecord) (answer : Except JobError Unit) : Prop :=
  ∀ {σ : Type} (state : σ), (Registry.ofSettings settings).delete record state = (answer, state)

theorem Refuses.of_execute {error : JobError}
    (h : ∀ {σ : Type} (context : CommandContext σ) (state : σ),
      (Registry.ofSettings settings).execute record context state = (.error error, state)) :
    settings.Refuses record error where
  execute := h
  attempts context n state := by
    induction n with
    | zero => rfl
    | succ n ih =>
      rw [Registry.attempts_succ _ _ _ n (h context state), ih]
      rfl

theorem Submits.of_execute {command : EngineCommand}
    (h : ∀ {σ : Type} (context : CommandContext σ) (state : σ),
      (Registry.ofSettings settings).execute record context state =
        ((context command state).1.mapError .command, (context command state).2)) :
    settings.Submits record command where
  execute := h
  ok_iff context state := by
    rw [h]
    cases (context command state).1 with
    | error e => exact ⟨nofun, nofun⟩
    | ok => exact iff_of_true rfl rfl
  attempts context n state calls := by
    induction n generalizing state calls with
    | zero => simp [Registry.attempts]
    | succ n ih =>
      rw [Registry.attempts_succ _ _ _ n (h context.logged (state, calls)),
        Registry.attempts_succ _ _ _ n (h context state)]
      simp only [CommandContext.logged, ih, List.replicate_succ, List.append_assoc,
        List.singleton_append]
  recorded n commands := by
    induction n generalizing commands with
    | zero => simp [Registry.attempts]
    | succ n ih =>
      rw [Registry.attempts_succ _ _ _ n (h Recorder.context { commands })]
      simp only [Recorder.context, ih, List.replicate_succ, List.append_assoc,
        List.singleton_append]
      rfl
  rejected reason n commands := by
    induction n with
    | zero => rfl
    | succ n ih =>
      rw [Registry.attempts_succ _ _ _ n
        (h Recorder.context { commands, rejectWith := some reason })]
      simp only [Recorder.context, ih, List.replicate_succ]
      rfl

/-- Decides between the two for every record, in the order of the stages. Whether the selector
resolves makes no difference to a deletion. -/
theorem execute_at_most_once (settings : Settings) (record : JobRecord) :
    match settings.job? record.handlerType with
    | none =>
      settings.Refuses record (.unknownHandler record.handlerType) ∧
        settings.Deletes record (.error (.unknownHandler record.handlerType))
    | some job =>
      match job.format.parse record.configuration with
      | .error e =>
        settings.Refuses record (.configuration e) ∧
          settings.Deletes record (.error (.configuration e))
      | .ok payload =>
        settings.Deletes record (.ok ()) ∧
          match job.dispatch payload with
          | .error e => settings.Refuses record (.configuration e)
          | .ok () =>
            ∃ command, job.command payload = .ok command ∧ settings.Submits record command := by
  cases hJob : settings.job? record.handlerType with
  | none =>
    exact ⟨.of_execute (Registry.execute_of_unknown hJob), Registry.delete_of_unknown hJob⟩
  | some job =>
    dsimp only
    cases hParse : job.format.parse record.configuration with
    | error e =>
      exact ⟨.of_execute (Registry.execute_of_unreadable hJob hParse),
        Registry.delete_of_unreadable hJob hParse⟩
    | ok payload =>
      refine ⟨Registry.delete_of_parse hJob hParse, ?_⟩
      obtain ⟨e, hDispatch, hCommand⟩ | ⟨command, hDispatch, hCommand⟩ := job.command_cases payload
      · rw [hDispatch]
        refine .of_execute fun context state => ?_
        rw [Registry.execute_of_parse hJob hParse]
        exact JobHandler.execute_of_error hCommand _ _ context state
      · rw [hDispatch]
        refine ⟨command, hCommand, .of_execute fun context state => ?_⟩
        rw [Registry.execute_of_parse hJob hParse]
        exact JobHandler.execute_of_ok hCommand _ _ context state

end Settings

end DeferredJobs
