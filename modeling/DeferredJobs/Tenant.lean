import DeferredJobs.Configuration.Field

/-!
# Restriction to a tenant

A target may be restricted to one tenant or to no tenant at all, or tenants may not matter. One
field tells the three apart: a string, an explicit null, or nothing.
-/

namespace DeferredJobs

inductive TenantScope where
  | notConsidered
  | withoutTenant
  | tenant (id : String)
  deriving DecidableEq, Inhabited

namespace TenantScope

/-- An explicit restriction: no name means no tenant. -/
def explicit : Option String → TenantScope
  | some id => .tenant id
  | none => .withoutTenant

def isSet : TenantScope → Bool
  | .notConsidered => false
  | .withoutTenant | .tenant _ => true

def id? : TenantScope → Option String
  | .tenant id => some id
  | .notConsidered | .withoutTenant => none

end TenantScope

def Object.tenant (o : Object) (name : String) : Except ConfigurationError TenantScope :=
  match o.find? name with
  | none => .ok .notConsidered
  | some .null => .ok .withoutTenant
  | some (.string id) => .ok (.tenant id)
  | some _ => .error (.wrongType name .stringOrNull)

def Object.putTenant (o : Object) (name : String) : TenantScope → Object
  | .notConsidered => o
  | .withoutTenant => o.insert name .null
  | .tenant id => o.put .string name id

end DeferredJobs
