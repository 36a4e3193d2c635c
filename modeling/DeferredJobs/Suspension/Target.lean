import DeferredJobs.Tenant

/-!
# What a state change applies to

Process definitions are named by an id, or by a key that many versions share and that a tenant
may restrict. Job definitions are named by an id of their own or by the process definitions they
belong to.
-/

namespace DeferredJobs

/-- The state that definitions are set to. -/
inductive ActivationState where
  | active
  | suspended
  deriving DecidableEq

namespace ActivationState

def name : ActivationState → String
  | active => "active"
  | suspended => "suspended"

def ofName? (name : String) : Option ActivationState :=
  [active, suspended].find? (·.name == name)

end ActivationState

inductive ProcessDefinitionTarget where
  | id (id : String)
  | key (key : String) (tenant : TenantScope)
  deriving DecidableEq

inductive JobDefinitionTarget where
  | id (id : String)
  /-- The job definitions of process definitions. -/
  | ofProcessDefinition (target : ProcessDefinitionTarget)
  deriving DecidableEq

structure SetJobDefinitionState where
  target : JobDefinitionTarget
  state : ActivationState
  includeJobs : Bool
  auditLogging : Bool
  deriving DecidableEq

structure SetProcessDefinitionState where
  target : ProcessDefinitionTarget
  state : ActivationState
  includeProcessInstances : Bool
  auditLogging : Bool
  deriving DecidableEq

/-- Changes that a timer triggers are no operations of a user. -/
def SetJobDefinitionState.withoutAudit (command : SetJobDefinitionState) : SetJobDefinitionState :=
  { command with auditLogging := false }

/-- Changes that a timer triggers are no operations of a user. -/
def SetProcessDefinitionState.withoutAudit (command : SetProcessDefinitionState) :
    SetProcessDefinitionState :=
  { command with auditLogging := false }

end DeferredJobs
