import DeferredJobs.Suspension.Configuration

/-!
# From selectors to targets

The target of a configuration is what the field under its selector names. A configuration has a
request exactly if it has a target, and both fail for the same reason. The request then amounts
to a command on this target in either state, so no request that stems from a configuration is
ever at fault.

* `JobDefinitionSuspension.request_cases`, `ProcessDefinitionSuspension.request_cases`: all that
  can come of a configuration.
-/

namespace DeferredJobs

/-- The selectors that a family resolves. -/
def DefinitionFamily.selectors : DefinitionFamily → List Selector
  | jobDefinition => [.jobDefinitionId, .processDefinitionId, .processDefinitionKey]
  | processDefinition => [.processDefinitionId, .processDefinitionKey]

/-! ## Job definitions -/

namespace JobDefinitionSuspension

/-- What the field under the selector names; a tenant restricts keys alone. -/
def target (c : JobDefinitionSuspension) : Except ConfigurationError JobDefinitionTarget :=
  match c.selector with
  | .jobDefinitionId => do
    return .id (← c.selector.value c.jobDefinitionId)
  | .processDefinitionId => do
    return .ofProcessDefinition (.id (← c.selector.value c.processDefinitionId))
  | .processDefinitionKey => do
    return .ofProcessDefinition (.key (← c.selector.value c.processDefinitionKey) c.tenant)
  | .unrecognized _ => .error c.selector.refuse

/-- Either there is neither request nor target, for one reason, or the request amounts to a command
on the target. -/
theorem request_cases (c : JobDefinitionSuspension) :
    (∃ e, c.request = .error e ∧ c.target = .error e) ∨
    ∃ request target, c.request = .ok request ∧ c.target = .ok target ∧
      ∀ state, request.command state = .ok ⟨target, state, c.includeJobs, true⟩ := by
  obtain ⟨selector, jobDefinitionId, processDefinitionId, processDefinitionKey, _, _⟩ := c
  cases selector with
  | jobDefinitionId =>
    cases jobDefinitionId with
    | none => exact .inl ⟨_, rfl, rfl⟩
    | some id => exact .inr ⟨_, _, rfl, rfl, fun _ => rfl⟩
  | processDefinitionId =>
    cases processDefinitionId with
    | none => exact .inl ⟨_, rfl, rfl⟩
    | some id => exact .inr ⟨_, _, rfl, rfl, fun _ => rfl⟩
  | processDefinitionKey =>
    cases processDefinitionKey with
    | none => exact .inl ⟨_, rfl, rfl⟩
    | some key => exact .inr ⟨_, _, rfl, rfl, fun _ => rfl⟩
  | unrecognized => exact .inl ⟨_, rfl, rfl⟩

end JobDefinitionSuspension

/-! ## Process definitions -/

namespace ProcessDefinitionSuspension

/-- What the field under the selector names; the id of a job definition names nothing here. -/
def target (c : ProcessDefinitionSuspension) : Except ConfigurationError ProcessDefinitionTarget :=
  match c.selector with
  | .processDefinitionId => do
    return .id (← c.selector.value c.processDefinitionId)
  | .processDefinitionKey => do
    return .key (← c.selector.value c.processDefinitionKey) c.tenant
  | .jobDefinitionId | .unrecognized _ => .error c.selector.refuse

/-- Either there is neither request nor target, for one reason, or the request amounts to a command
on the target. -/
theorem request_cases (c : ProcessDefinitionSuspension) :
    (∃ e, c.request = .error e ∧ c.target = .error e) ∨
    ∃ request target, c.request = .ok request ∧ c.target = .ok target ∧
      ∀ state, request.command state = .ok ⟨target, state, c.includeProcessInstances, true⟩ := by
  obtain ⟨selector, processDefinitionId, processDefinitionKey, _, _⟩ := c
  cases selector with
  | processDefinitionId =>
    cases processDefinitionId with
    | none => exact .inl ⟨_, rfl, rfl⟩
    | some id => exact .inr ⟨_, _, rfl, rfl, fun _ => rfl⟩
  | processDefinitionKey =>
    cases processDefinitionKey with
    | none => exact .inl ⟨_, rfl, rfl⟩
    | some key => exact .inr ⟨_, _, rfl, rfl, fun _ => rfl⟩
  | jobDefinitionId | unrecognized => exact .inl ⟨_, rfl, rfl⟩

end ProcessDefinitionSuspension

end DeferredJobs
