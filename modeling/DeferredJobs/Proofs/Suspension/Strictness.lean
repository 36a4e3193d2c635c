import DeferredJobs.Proofs.Configuration.Field
import DeferredJobs.Proofs.Job.Execution

/-!
# Dispatch is strict

Reading accepts any selector. To resolve it is where a configuration is refused: its family must
know the selector, and the field under it must be there. What then becomes a request is that field,
the flag and, beside a key, the tenant. So a request that stems from a configuration never breaks
the rules of requests, and nothing else in the configuration matters.

* `StrictDispatch`: what a configuration comes to, for either family.
* `JobDefinitionSuspension.request_eq_of_agree`, `ProcessDefinitionSuspension.request_eq_of_agree`:
  what a request depends on.
* `JobDefinitionSuspension.read_malformed`, `ProcessDefinitionSuspension.read_malformed`: reading
  leaves the selector alone.
* `DefinitionFamily.dispatch_strict`: both families.
-/

namespace DeferredJobs

open Object

/-! ## What dispatch asks for -/

/-- What a configuration comes to that is written as an object and has a value, or none, under its
selector. -/
structure StrictDispatch {Request Command : Type} (family : DefinitionFamily) (selector : Selector)
    (value : Option String) (written : Object) (request : Except ConfigurationError Request)
    (command : Request → ActivationState → Except RequestFault Command) : Prop where
  /-- The value is that of the field that the selector is named after. -/
  named : selector ∈ family.selectors →
    written.find? selector.name = value.map FieldType.string.write
  succeeds_iff : ∀ state, (∃ r c, request = .ok r ∧ command r state = .ok c) ↔
    selector ∈ family.selectors ∧ value.isSome
  missing : selector ∈ family.selectors → value = none →
    request = .error (.missingField selector.name)
  unknown : selector ∉ family.selectors → request = .error (.unknownSelector selector.name)
  never_at_fault : ∀ r, request = .ok r → ∀ state, ∃ c, command r state = .ok c

namespace StrictDispatch

variable {Request Command : Type} {family : DefinitionFamily} {selector : Selector}
  {value : Option String} {written : Object} {request : Except ConfigurationError Request}
  {command : Request → ActivationState → Except RequestFault Command}

theorem of_unknown (hSelector : selector ∉ family.selectors)
    (hRequest : request = .error selector.refuse) :
    StrictDispatch family selector value written request command where
  named hKnown := absurd hKnown hSelector
  succeeds_iff state := by
    refine ⟨fun ⟨r, c, hOk, _⟩ => ?_, fun h => absurd h.1 hSelector⟩
    rw [hRequest] at hOk
    cases hOk
  missing hKnown := absurd hKnown hSelector
  unknown _ := hRequest
  never_at_fault r hOk := by
    rw [hRequest] at hOk
    cases hOk

/-- For a known selector it is enough to see that any value under it makes a request without a
fault. -/
theorem of_known (hSelector : selector ∈ family.selectors)
    (hNamed : written.find? selector.name = value.map FieldType.string.write)
    {build : String → Request}
    (hRequest : request = selector.value value >>= fun text => .ok (build text))
    (hCommand : ∀ text state, ∃ c, command (build text) state = .ok c) :
    StrictDispatch family selector value written request command := by
  cases value with
  | none =>
    exact {
      named := fun _ => hNamed
      succeeds_iff := fun state => by
        refine ⟨fun ⟨r, c, hOk, _⟩ => ?_, fun h => by cases h.2⟩
        rw [hRequest] at hOk
        cases hOk
      missing := fun _ _ => hRequest
      unknown := fun hUnknown => absurd hSelector hUnknown
      never_at_fault := fun r hOk => by
        rw [hRequest] at hOk
        cases hOk }
  | some text =>
    exact {
      named := fun _ => hNamed
      succeeds_iff := fun state => by
        obtain ⟨c, hCommand⟩ := hCommand text state
        exact iff_of_true ⟨build text, c, hRequest, hCommand⟩ ⟨hSelector, rfl⟩
      missing := fun _ hNone => by cases hNone
      unknown := fun hUnknown => absurd hSelector hUnknown
      never_at_fault := fun r hOk => by
        rw [hRequest] at hOk
        cases hOk
        exact hCommand text }

end StrictDispatch

/-! ## Job definitions -/

namespace JobDefinitionSuspension

/-- The value under the selector. -/
def selected (c : JobDefinitionSuspension) : Option String :=
  match c.selector with
  | .jobDefinitionId => c.jobDefinitionId
  | .processDefinitionId => c.processDefinitionId
  | .processDefinitionKey => c.processDefinitionKey
  | .unrecognized _ => none

/-- Nothing that counts differs. -/
structure Agree (a b : JobDefinitionSuspension) : Prop where
  selector : a.selector = b.selector
  selected : a.selected = b.selected
  includeJobs : a.includeJobs = b.includeJobs
  tenant : a.selector = .processDefinitionKey → a.tenant = b.tenant

theorem strictDispatch (c : JobDefinitionSuspension) :
    StrictDispatch .jobDefinition c.selector c.selected (format.write c) c.request
      JobDefinitionRequest.command := by
  obtain ⟨selector, jobDefinitionId, processDefinitionId, processDefinitionKey, _, _⟩ := c
  cases selector with
  | jobDefinitionId | processDefinitionId | processDefinitionKey =>
    exact .of_known (by simp [DefinitionFamily.selectors])
      (by simp [format, selected, Selector.name]) rfl fun _ _ => ⟨_, rfl⟩
  | unrecognized name => exact .of_unknown (by simp [DefinitionFamily.selectors]) rfl

theorem request_eq_of_agree {a b : JobDefinitionSuspension} (h : a.Agree b) :
    a.request = b.request := by
  obtain ⟨selector, _, _, _, _, _⟩ := a
  obtain ⟨_, _, _, _, _, _⟩ := b
  obtain ⟨rfl, hSelected, rfl, hTenant⟩ := h
  cases selector with
  | jobDefinitionId =>
    cases hSelected
    rfl
  | processDefinitionId =>
    cases hSelected
    rfl
  | processDefinitionKey =>
    cases hSelected
    cases hTenant rfl
    rfl
  | unrecognized name => rfl

/-- The selector is not resolved yet. -/
theorem read_malformed (o : Object) : Malformed (format.read o) :=
  require_malformed.bind fun _ =>
  get?_malformed.bind fun _ =>
  get?_malformed.bind fun _ =>
  get?_malformed.bind fun _ =>
  flag_malformed.bind fun _ =>
  tenant_malformed.bind fun _ => .ok _

end JobDefinitionSuspension

/-! ## Process definitions -/

namespace ProcessDefinitionSuspension

/-- The value under the selector; the id of a job definition is none of the targets here. -/
def selected (c : ProcessDefinitionSuspension) : Option String :=
  match c.selector with
  | .processDefinitionId => c.processDefinitionId
  | .processDefinitionKey => c.processDefinitionKey
  | .jobDefinitionId | .unrecognized _ => none

/-- Nothing that counts differs. -/
structure Agree (a b : ProcessDefinitionSuspension) : Prop where
  selector : a.selector = b.selector
  selected : a.selected = b.selected
  includeProcessInstances : a.includeProcessInstances = b.includeProcessInstances
  tenant : a.selector = .processDefinitionKey → a.tenant = b.tenant

theorem strictDispatch (c : ProcessDefinitionSuspension) :
    StrictDispatch .processDefinition c.selector c.selected (format.write c) c.request
      ProcessDefinitionRequest.command := by
  obtain ⟨selector, processDefinitionId, processDefinitionKey, _, _⟩ := c
  cases selector with
  | processDefinitionId | processDefinitionKey =>
    exact .of_known (by simp [DefinitionFamily.selectors])
      (by simp [format, selected, Selector.name]) rfl fun _ _ => ⟨_, rfl⟩
  | jobDefinitionId | unrecognized => exact .of_unknown (by simp [DefinitionFamily.selectors]) rfl

theorem request_eq_of_agree {a b : ProcessDefinitionSuspension} (h : a.Agree b) :
    a.request = b.request := by
  obtain ⟨selector, _, _, _, _⟩ := a
  obtain ⟨_, _, _, _, _⟩ := b
  obtain ⟨rfl, hSelected, rfl, hTenant⟩ := h
  cases selector with
  | processDefinitionId =>
    cases hSelected
    rfl
  | processDefinitionKey =>
    cases hSelected
    cases hTenant rfl
    rfl
  | jobDefinitionId | unrecognized => rfl

/-- The selector is not resolved yet. -/
theorem read_malformed (o : Object) : Malformed (format.read o) :=
  require_malformed.bind fun _ =>
  get?_malformed.bind fun _ =>
  get?_malformed.bind fun _ =>
  flag_malformed.bind fun _ =>
  tenant_malformed.bind fun _ => .ok _

end ProcessDefinitionSuspension

/-! ## Both families -/

/-- Only a context calls a request of a handler invalid. -/
theorem StandardJob.exists_of_invalidRequest {σ : Type} (job : StandardJob) (payload : job.Payload)
    {execution tenant : Option String} {context : CommandContext σ} {state : σ}
    {fault : RequestFault}
    (h : (job.handler.execute payload execution tenant context state).1 =
      .error (.command (.invalidRequest fault))) :
    ∃ command, job.command payload = .ok command ∧
      (context command state).1 = .error (.invalidRequest fault) := by
  obtain ⟨e, -, hCommand⟩ | ⟨command, -, hCommand⟩ := job.command_cases payload
  · have hExecute : job.handler.execute payload execution tenant context state =
        (.error (.configuration e), state) := JobHandler.execute_of_error hCommand _ _ context state
    rw [hExecute] at h
    cases h
  · have hExecute : job.handler.execute payload execution tenant context state =
        ((context command state).1.mapError .command, (context command state).2) :=
      JobHandler.execute_of_ok hCommand _ _ context state
    rw [hExecute] at h
    refine ⟨command, hCommand, ?_⟩
    cases hContext : (context command state).1 with
    | ok =>
      rw [hContext] at h
      cases h
    | error e =>
      rw [hContext] at h
      cases h
      rfl

/-- Whether a configuration becomes a command is decided by its selector and the field under it, and
the fault, if there is one, is found before there is a request. What the command is depends on
nothing but these two, the flag and, beside a key, the tenant. No handler ever makes a request that
is invalid, and no reader refuses a selector. -/
theorem DefinitionFamily.dispatch_strict :
    (∀ c : JobDefinitionSuspension,
      StrictDispatch .jobDefinition c.selector c.selected (JobDefinitionSuspension.format.write c)
        c.request JobDefinitionRequest.command) ∧
    (∀ c : ProcessDefinitionSuspension,
      StrictDispatch .processDefinition c.selector c.selected
        (ProcessDefinitionSuspension.format.write c) c.request ProcessDefinitionRequest.command) ∧
    (∀ a b : JobDefinitionSuspension, a.Agree b → a.request = b.request) ∧
    (∀ a b : ProcessDefinitionSuspension, a.Agree b → a.request = b.request) ∧
    (∀ {σ : Type} (job : StandardJob) (payload : job.Payload) (execution tenant : Option String)
      (context : CommandContext σ) (state : σ) (fault : RequestFault),
      (job.handler.execute payload execution tenant context state).1 =
        .error (.command (.invalidRequest fault)) →
      ∃ command, job.command payload = .ok command ∧
        (context command state).1 = .error (.invalidRequest fault)) ∧
    ∀ (o : Object) (name : String),
      JobDefinitionSuspension.format.read o ≠ .error (.unknownSelector name) ∧
      ProcessDefinitionSuspension.format.read o ≠ .error (.unknownSelector name) := by
  refine ⟨JobDefinitionSuspension.strictDispatch, ProcessDefinitionSuspension.strictDispatch,
    fun _ _ => JobDefinitionSuspension.request_eq_of_agree,
    fun _ _ => ProcessDefinitionSuspension.request_eq_of_agree,
    fun job payload _ _ _ _ _ => job.exists_of_invalidRequest payload, fun o name => ⟨?_, ?_⟩⟩
  · intro hRead
    cases JobDefinitionSuspension.read_malformed o _ hRead
  · intro hRead
    cases ProcessDefinitionSuspension.read_malformed o _ hRead

/-- An id is selected, so a key beside it and a tenant do not count. A context may call any request
invalid. -/
theorem DefinitionFamily.dispatch_strict_id_with_key :
    ProcessDefinitionSuspension.request {
        selector := .processDefinitionId, processDefinitionId := some "p",
        processDefinitionKey := some "k", includeProcessInstances := true,
        tenant := .tenant "t" } =
      ProcessDefinitionSuspension.request (.ofProcessDefinition "p" true) ∧
    JobDefinitionSuspension.request {
        selector := .jobDefinitionId, jobDefinitionId := some "j", processDefinitionId := some "p",
        includeJobs := false, tenant := .withoutTenant } =
      JobDefinitionSuspension.request (.ofJobDefinition "j" false) ∧
    ∃ command, StandardJob.setJobRetries.command ⟨[], 3⟩ = .ok command ∧
      ((fun _ state => (.error (.invalidRequest .tenantWithoutKey), state) : CommandContext Unit)
        command ()).1 = .error (.invalidRequest .tenantWithoutKey) := by
  obtain ⟨-, -, hJob, hProcess, hContext, -⟩ := dispatch_strict
  refine ⟨hProcess _ _ ⟨rfl, rfl, rfl, nofun⟩, hJob _ _ ⟨rfl, rfl, rfl, nofun⟩, ?_⟩
  exact hContext .setJobRetries ⟨[], 3⟩ none none
    (fun _ state => (.error (.invalidRequest .tenantWithoutKey), state)) () .tenantWithoutKey rfl

end DeferredJobs
