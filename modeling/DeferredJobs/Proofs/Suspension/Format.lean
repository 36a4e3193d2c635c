import DeferredJobs.Proofs.Configuration.Format
import DeferredJobs.Suspension.Configuration

/-!
# Timed state changes are read back

On the wire a selector is a name, and a name is read as the selector it stands for. So a
configuration is read back with the selector of its selector's name, and with all other fields as
they are: absent target fields stay absent, and the three states of the tenant stay apart.

Reading a known name never gives an unrecognised selector. Hence an unrecognised selector that
holds a known name is the one thing that is not read back (`Selector.Proper` excludes it), and
reading never produces it.

* `JobDefinitionSuspension.read_write`, `ProcessDefinitionSuspension.read_write`: what becomes of
  any configuration.
* `JobDefinitionSuspension.lossless`, `ProcessDefinitionSuspension.lossless`: nothing is lost with
  a proper selector.
-/

namespace DeferredJobs

open Object

namespace Selector

/-- The names that stand for the selectors of this library. -/
def knownNames : List String :=
  [jobDefinitionId.name, processDefinitionId.name, processDefinitionKey.name]

/-- An unrecognised selector does not hold a known name. -/
def Proper : Selector → Prop
  | unrecognized name => name ∉ knownNames
  | jobDefinitionId | processDefinitionId | processDefinitionKey => True

theorem proper_ofName (name : String) : (ofName name).Proper := by
  unfold ofName
  split
  · trivial
  · split
    · trivial
    · split
      · trivial
      · simp only [Proper, knownNames, List.mem_cons, List.not_mem_nil, or_false, not_or]
        exact ⟨‹_›, ‹_›, ‹_›⟩

theorem ofName_name {selector : Selector} (h : selector.Proper) :
    ofName selector.name = selector := by
  cases selector with
  | jobDefinitionId | processDefinitionId | processDefinitionKey => rfl
  | unrecognized text =>
    simp only [Proper, knownNames, List.mem_cons, List.not_mem_nil, or_false, not_or] at h
    show ofName text = _
    rw [ofName, if_neg h.1, if_neg h.2.1, if_neg h.2.2]

end Selector

namespace JobDefinitionSuspension

theorem read_write (c : JobDefinitionSuspension) :
    format.read (format.write c) = .ok { c with selector := Selector.ofName c.selector.name } := by
  have hBy : (format.write c).require .string "by" = .ok c.selector.name :=
    require_of_find? (by simp [format])
  have hJob : (format.write c).get? .string "jobDefinitionId" = .ok c.jobDefinitionId :=
    get?_of_find? (by simp [format])
  have hProcess : (format.write c).get? .string "processDefinitionId" =
      .ok c.processDefinitionId := get?_of_find? (by simp [format])
  have hKey : (format.write c).get? .string "processDefinitionKey" =
      .ok c.processDefinitionKey := get?_of_find? (by simp [format])
  have hJobs : (format.write c).flag "includeJobs" false = .ok c.includeJobs :=
    flag_of_find? (by simp [format])
  have hTenant : (format.write c).tenant "processDefinitionTenantId" = .ok c.tenant :=
    tenant_of_find? (by simp [format])
  generalize format.write c = o at hBy hJob hProcess hKey hJobs hTenant ⊢
  simp only [format, hBy, hJob, hProcess, hKey, hJobs, hTenant, ok_bind]
  rfl

theorem storable_write (c : JobDefinitionSuspension) :
    (format.write c).toJson.Storable Json.maxDepth :=
  storable_putTenant (storable_putFlag (storable_putString? (storable_putString?
    (storable_putString? (storable_putString (storable_empty 126) _ _) _ _) _ _) _ _) _ _ _) _ _

theorem lossless : format.Lossless (·.selector.Proper) where
  read_write c hProper := by
    rw [read_write, Selector.ofName_name hProper]
  proper_of_read o c h := by
    obtain ⟨name, -, h⟩ := bind_eq_ok h
    obtain ⟨_, -, h⟩ := bind_eq_ok h
    obtain ⟨_, -, h⟩ := bind_eq_ok h
    obtain ⟨_, -, h⟩ := bind_eq_ok h
    obtain ⟨_, -, h⟩ := bind_eq_ok h
    obtain ⟨_, -, h⟩ := bind_eq_ok h
    cases h
    exact Selector.proper_ofName name
  storable := storable_write

end JobDefinitionSuspension

namespace ProcessDefinitionSuspension

theorem read_write (c : ProcessDefinitionSuspension) :
    format.read (format.write c) = .ok { c with selector := Selector.ofName c.selector.name } := by
  have hBy : (format.write c).require .string "by" = .ok c.selector.name :=
    require_of_find? (by simp [format])
  have hProcess : (format.write c).get? .string "processDefinitionId" =
      .ok c.processDefinitionId := get?_of_find? (by simp [format])
  have hKey : (format.write c).get? .string "processDefinitionKey" =
      .ok c.processDefinitionKey := get?_of_find? (by simp [format])
  have hInstances : (format.write c).flag "includeProcessInstances" false =
      .ok c.includeProcessInstances := flag_of_find? (by simp [format])
  have hTenant : (format.write c).tenant "processDefinitionTenantId" = .ok c.tenant :=
    tenant_of_find? (by simp [format])
  generalize format.write c = o at hBy hProcess hKey hInstances hTenant ⊢
  simp only [format, hBy, hProcess, hKey, hInstances, hTenant, ok_bind]
  rfl

theorem storable_write (c : ProcessDefinitionSuspension) :
    (format.write c).toJson.Storable Json.maxDepth :=
  storable_putTenant (storable_putFlag (storable_putString? (storable_putString?
    (storable_putString (storable_empty 126) _ _) _ _) _ _) _ _ _) _ _

theorem lossless : format.Lossless (·.selector.Proper) where
  read_write c hProper := by
    rw [read_write, Selector.ofName_name hProper]
  proper_of_read o c h := by
    obtain ⟨name, -, h⟩ := bind_eq_ok h
    obtain ⟨_, -, h⟩ := bind_eq_ok h
    obtain ⟨_, -, h⟩ := bind_eq_ok h
    obtain ⟨_, -, h⟩ := bind_eq_ok h
    obtain ⟨_, -, h⟩ := bind_eq_ok h
    cases h
    exact Selector.proper_ofName name
  storable := storable_write

end ProcessDefinitionSuspension

end DeferredJobs
