import DeferredJobs.Configuration.Format
import DeferredJobs.Suspension.Request
import DeferredJobs.Suspension.Selector

/-!
# Configurations of timed state changes

Reading accepts any selector and any combination of target fields. Only when the job runs is the
selector resolved to a request: the one field it points at must be there, other target fields do
not count, and the tenant counts together with a key alone.
-/

namespace DeferredJobs

/-! ## Job definitions -/

structure JobDefinitionSuspension where
  selector : Selector
  jobDefinitionId : Option String := none
  processDefinitionId : Option String := none
  processDefinitionKey : Option String := none
  includeJobs : Bool
  tenant : TenantScope := .notConsidered
  deriving DecidableEq

namespace JobDefinitionSuspension

def ofJobDefinition (id : String) (includeJobs : Bool) : JobDefinitionSuspension :=
  { selector := .jobDefinitionId, jobDefinitionId := some id, includeJobs }

def ofProcessDefinition (id : String) (includeJobs : Bool) : JobDefinitionSuspension :=
  { selector := .processDefinitionId, processDefinitionId := some id, includeJobs }

def ofKey (key : String) (includeJobs : Bool) : JobDefinitionSuspension :=
  { selector := .processDefinitionKey, processDefinitionKey := some key, includeJobs }

/-- Restricted to a tenant, or to definitions of no tenant. -/
def ofKeyAndTenant (key : String) (tenant : Option String) (includeJobs : Bool) :
    JobDefinitionSuspension :=
  { ofKey key includeJobs with tenant := .explicit tenant }

def format : Format JobDefinitionSuspension where
  write c :=
    Object.empty
      |>.put .string "by" c.selector.name
      |>.put? .string "jobDefinitionId" c.jobDefinitionId
      |>.put? .string "processDefinitionId" c.processDefinitionId
      |>.put? .string "processDefinitionKey" c.processDefinitionKey
      |>.putFlag "includeJobs" false c.includeJobs
      |>.putTenant "processDefinitionTenantId" c.tenant
  read o := do
    let name ← o.require .string "by"
    let jobDefinitionId ← o.get? .string "jobDefinitionId"
    let processDefinitionId ← o.get? .string "processDefinitionId"
    let processDefinitionKey ← o.get? .string "processDefinitionKey"
    let includeJobs ← o.flag "includeJobs" false
    let tenant ← o.tenant "processDefinitionTenantId"
    return {
      selector := Selector.ofName name, jobDefinitionId, processDefinitionId, processDefinitionKey,
      includeJobs, tenant }

/-- The request that the selector amounts to. -/
def request (c : JobDefinitionSuspension) : Except ConfigurationError JobDefinitionRequest :=
  match c.selector with
  | .jobDefinitionId => do
    let id ← c.selector.value c.jobDefinitionId
    return { jobDefinitionId := some id, includeJobs := c.includeJobs }
  | .processDefinitionId => do
    let id ← c.selector.value c.processDefinitionId
    return { processDefinitionId := some id, includeJobs := c.includeJobs }
  | .processDefinitionKey => do
    let key ← c.selector.value c.processDefinitionKey
    return { processDefinitionKey := some key, tenant := c.tenant, includeJobs := c.includeJobs }
  | .unrecognized _ => .error c.selector.refuse

end JobDefinitionSuspension

/-! ## Process definitions -/

/-- Selection by the id of a job definition is unknown here. -/
structure ProcessDefinitionSuspension where
  selector : Selector
  processDefinitionId : Option String := none
  processDefinitionKey : Option String := none
  includeProcessInstances : Bool
  tenant : TenantScope := .notConsidered
  deriving DecidableEq

namespace ProcessDefinitionSuspension

def ofProcessDefinition (id : String) (includeProcessInstances : Bool) :
    ProcessDefinitionSuspension :=
  { selector := .processDefinitionId, processDefinitionId := some id, includeProcessInstances }

def ofKey (key : String) (includeProcessInstances : Bool) : ProcessDefinitionSuspension :=
  { selector := .processDefinitionKey, processDefinitionKey := some key, includeProcessInstances }

/-- Restricted to a tenant, or to definitions of no tenant. -/
def ofKeyAndTenant (key : String) (tenant : Option String) (includeProcessInstances : Bool) :
    ProcessDefinitionSuspension :=
  { ofKey key includeProcessInstances with tenant := .explicit tenant }

def format : Format ProcessDefinitionSuspension where
  write c :=
    Object.empty
      |>.put .string "by" c.selector.name
      |>.put? .string "processDefinitionId" c.processDefinitionId
      |>.put? .string "processDefinitionKey" c.processDefinitionKey
      |>.putFlag "includeProcessInstances" false c.includeProcessInstances
      |>.putTenant "processDefinitionTenantId" c.tenant
  read o := do
    let name ← o.require .string "by"
    let processDefinitionId ← o.get? .string "processDefinitionId"
    let processDefinitionKey ← o.get? .string "processDefinitionKey"
    let includeProcessInstances ← o.flag "includeProcessInstances" false
    let tenant ← o.tenant "processDefinitionTenantId"
    return {
      selector := Selector.ofName name, processDefinitionId, processDefinitionKey,
      includeProcessInstances, tenant }

/-- The request that the selector amounts to. -/
def request (c : ProcessDefinitionSuspension) :
    Except ConfigurationError ProcessDefinitionRequest :=
  match c.selector with
  | .processDefinitionId => do
    let id ← c.selector.value c.processDefinitionId
    return { processDefinitionId := some id, includeProcessInstances := c.includeProcessInstances }
  | .processDefinitionKey => do
    let key ← c.selector.value c.processDefinitionKey
    return {
      processDefinitionKey := some key, tenant := c.tenant,
      includeProcessInstances := c.includeProcessInstances }
  | .jobDefinitionId | .unrecognized _ => .error c.selector.refuse

end ProcessDefinitionSuspension

end DeferredJobs
