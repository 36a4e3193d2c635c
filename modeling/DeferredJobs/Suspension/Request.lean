import DeferredJobs.Suspension.Target

/-!
# Requests for a state change

A request is filled in step by step, in any order, later values replacing earlier ones. It becomes a
command if exactly one selector is set, and a tenant only together with a process definition key.
-/

namespace DeferredJobs

/-- Whose state a request changes. -/
inductive DefinitionFamily where
  | jobDefinition
  | processDefinition
  deriving DecidableEq

/-- Why a request is no command. -/
inductive RequestFault where
  | tenantWithoutKey
  | selectorMissing (family : DefinitionFamily)
  | severalSelectors (family : DefinitionFamily)
  deriving DecidableEq

def RequestFault.message : RequestFault → String
  | tenantWithoutKey => "a tenant restriction requires a process definition key"
  | selectorMissing .jobDefinition =>
    "a job definition id, process definition id or process definition key is required"
  | selectorMissing .processDefinition =>
    "a process definition id or process definition key is required"
  | severalSelectors .jobDefinition => "only one job definition selector may be set"
  | severalSelectors .processDefinition => "only one process definition selector may be set"

/-- The target that a key names. Without a key there is none, and no tenant may be set. -/
def ProcessDefinitionTarget.ofKey? (key : Option String) (tenant : TenantScope) :
    Except RequestFault (Option ProcessDefinitionTarget) :=
  match key with
  | some key => .ok (some (.key key tenant))
  | none => if tenant.isSet then .error .tenantWithoutKey else .ok none

/-! ## Job definitions -/

structure JobDefinitionRequest where
  jobDefinitionId : Option String := none
  processDefinitionId : Option String := none
  processDefinitionKey : Option String := none
  tenant : TenantScope := .notConsidered
  includeJobs : Bool := false
  deriving DecidableEq

namespace JobDefinitionRequest

inductive Step where
  | jobDefinitionId (id : String)
  | processDefinitionId (id : String)
  | processDefinitionKey (key : String)
  | tenant (id : String)
  | withoutTenant
  | includeJobs (value : Bool)
  deriving DecidableEq

def apply (request : JobDefinitionRequest) : Step → JobDefinitionRequest
  | .jobDefinitionId id => { request with jobDefinitionId := some id }
  | .processDefinitionId id => { request with processDefinitionId := some id }
  | .processDefinitionKey key => { request with processDefinitionKey := some key }
  | .tenant id => { request with tenant := .tenant id }
  | .withoutTenant => { request with tenant := .withoutTenant }
  | .includeJobs value => { request with includeJobs := value }

def ofSteps (steps : List Step) : JobDefinitionRequest :=
  steps.foldl apply {}

def target (request : JobDefinitionRequest) : Except RequestFault JobDefinitionTarget := do
  let byKey ← ProcessDefinitionTarget.ofKey? request.processDefinitionKey request.tenant
  match request.jobDefinitionId, request.processDefinitionId, byKey with
  | some id, none, none => return .id id
  | none, some id, none => return .ofProcessDefinition (.id id)
  | none, none, some target => return .ofProcessDefinition target
  | none, none, none => .error (.selectorMissing .jobDefinition)
  | _, _, _ => .error (.severalSelectors .jobDefinition)

/-- The command a request amounts to, as an operation of a user. -/
def command (request : JobDefinitionRequest) (state : ActivationState) :
    Except RequestFault SetJobDefinitionState := do
  return ⟨← request.target, state, request.includeJobs, true⟩

end JobDefinitionRequest

/-! ## Process definitions -/

structure ProcessDefinitionRequest where
  processDefinitionId : Option String := none
  processDefinitionKey : Option String := none
  tenant : TenantScope := .notConsidered
  includeProcessInstances : Bool := false
  deriving DecidableEq

namespace ProcessDefinitionRequest

inductive Step where
  | processDefinitionId (id : String)
  | processDefinitionKey (key : String)
  | tenant (id : String)
  | withoutTenant
  | includeProcessInstances (value : Bool)
  deriving DecidableEq

def apply (request : ProcessDefinitionRequest) : Step → ProcessDefinitionRequest
  | .processDefinitionId id => { request with processDefinitionId := some id }
  | .processDefinitionKey key => { request with processDefinitionKey := some key }
  | .tenant id => { request with tenant := .tenant id }
  | .withoutTenant => { request with tenant := .withoutTenant }
  | .includeProcessInstances value => { request with includeProcessInstances := value }

def ofSteps (steps : List Step) : ProcessDefinitionRequest :=
  steps.foldl apply {}

def target (request : ProcessDefinitionRequest) : Except RequestFault ProcessDefinitionTarget := do
  let byKey ← ProcessDefinitionTarget.ofKey? request.processDefinitionKey request.tenant
  match request.processDefinitionId, byKey with
  | some id, none => return .id id
  | none, some target => return target
  | none, none => .error (.selectorMissing .processDefinition)
  | some _, some _ => .error (.severalSelectors .processDefinition)

/-- The command a request amounts to, as an operation of a user. -/
def command (request : ProcessDefinitionRequest) (state : ActivationState) :
    Except RequestFault SetProcessDefinitionState := do
  return ⟨← request.target, state, request.includeProcessInstances, true⟩

end ProcessDefinitionRequest

end DeferredJobs
