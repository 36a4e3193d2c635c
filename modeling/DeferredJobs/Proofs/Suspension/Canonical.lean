import DeferredJobs.Job.Standard
import DeferredJobs.Proofs.Suspension.Format

/-!
# Canonical texts tell state changes apart

The canonical text of a configuration keeps every field: absent target fields, the three states of
the tenant and either flag. Of the selector it keeps the name, so an unrecognised selector that
holds a known name has the text of the selector that the name stands for. Nothing else is ever
confused, whatever layouts two texts are written in.

* `Selector.ofName_name_iff`: which selectors a text keeps.
* `ActivationState.read_canonical`: both families of state changes.
-/

namespace DeferredJobs

/-! ## Selectors -/

namespace Selector

theorem proper_iff {selector : Selector} :
    selector.Proper ↔ ∀ name ∈ knownNames, selector ≠ .unrecognized name := by
  cases selector with
  | unrecognized text =>
    refine ⟨fun hProper name hName hEq => ?_, fun hNot hText => hNot text hText rfl⟩
    cases hEq
    exact hProper hName
  | _ => exact iff_of_true trivial (fun _ _ => nofun)

/-- Only an unrecognised selector that holds a known name is not the selector of its name. -/
theorem ofName_name_iff {selector : Selector} :
    ofName selector.name = selector ↔ selector.Proper := by
  refine ⟨fun h => ?_, ofName_name⟩
  rw [← h]
  exact proper_ofName selector.name

/-- Selectors that are read back alike have one name. -/
theorem name_eq_of_ofName_eq {a b : Selector} (h : ofName a.name = ofName b.name) :
    a.name = b.name := by
  rw [← name_ofName a.name, h, name_ofName]

end Selector

/-! ## Handlers -/

/-- The handler of the jobs that set this state of job definitions. -/
def JobDefinitionSuspension.handler (σ : Type) :
    ActivationState → JobHandler σ JobDefinitionSuspension
  | .active => StandardJob.activateJobDefinition.handler
  | .suspended => StandardJob.suspendJobDefinition.handler

/-- The handler of the jobs that set this state of process definitions. -/
def ProcessDefinitionSuspension.handler (σ : Type) :
    ActivationState → JobHandler σ ProcessDefinitionSuspension
  | .active => StandardJob.activateProcessDefinition.handler
  | .suspended => StandardJob.suspendProcessDefinition.handler

/-! ## Job definitions -/

namespace JobDefinitionSuspension

/-- What becomes of a configuration on its way through a text. -/
def reread (c : JobDefinitionSuspension) : JobDefinitionSuspension :=
  { c with selector := Selector.ofName c.selector.name }

theorem reread_eq_self_iff {c : JobDefinitionSuspension} :
    c.reread = c ↔ ∀ name ∈ Selector.knownNames, c.selector ≠ .unrecognized name := by
  rw [← Selector.proper_iff, ← Selector.ofName_name_iff]
  exact ⟨congrArg selector, fun h => by rw [reread, h]⟩

theorem parse_canonical (c : JobDefinitionSuspension) (layout : Layout) :
    format.parse (format.canonical layout c) = .ok c.reread :=
  (Format.parse_canonical_eq (storable_write c) layout).trans (read_write c)

theorem fields_eq_of_canonical_eq {c other : JobDefinitionSuspension} {layout otherLayout : Layout}
    (h : format.canonical layout c = format.canonical otherLayout other) :
    c.selector.name = other.selector.name ∧ c.tenant = other.tenant ∧
      c.jobDefinitionId = other.jobDefinitionId ∧
      c.processDefinitionId = other.processDefinitionId ∧
      c.processDefinitionKey = other.processDefinitionKey ∧ c.includeJobs = other.includeJobs := by
  have hReread : c.reread = other.reread :=
    Format.eq_of_canonical_eq read_write storable_write h
  obtain ⟨hSelector, hJob, hProcess, hKey, hInclude, hTenant⟩ :=
    JobDefinitionSuspension.mk.inj hReread
  exact ⟨Selector.name_eq_of_ofName_eq hSelector, hTenant, hJob, hProcess, hKey, hInclude⟩

end JobDefinitionSuspension

/-! ## Process definitions -/

namespace ProcessDefinitionSuspension

/-- What becomes of a configuration on its way through a text. -/
def reread (c : ProcessDefinitionSuspension) : ProcessDefinitionSuspension :=
  { c with selector := Selector.ofName c.selector.name }

theorem reread_eq_self_iff {c : ProcessDefinitionSuspension} :
    c.reread = c ↔ ∀ name ∈ Selector.knownNames, c.selector ≠ .unrecognized name := by
  rw [← Selector.proper_iff, ← Selector.ofName_name_iff]
  exact ⟨congrArg selector, fun h => by rw [reread, h]⟩

theorem parse_canonical (c : ProcessDefinitionSuspension) (layout : Layout) :
    format.parse (format.canonical layout c) = .ok c.reread :=
  (Format.parse_canonical_eq (storable_write c) layout).trans (read_write c)

theorem fields_eq_of_canonical_eq {c other : ProcessDefinitionSuspension}
    {layout otherLayout : Layout}
    (h : format.canonical layout c = format.canonical otherLayout other) :
    c.selector.name = other.selector.name ∧ c.tenant = other.tenant ∧
      c.processDefinitionId = other.processDefinitionId ∧
      c.processDefinitionKey = other.processDefinitionKey ∧
      c.includeProcessInstances = other.includeProcessInstances := by
  have hReread : c.reread = other.reread :=
    Format.eq_of_canonical_eq read_write storable_write h
  obtain ⟨hSelector, hProcess, hKey, hInclude, hTenant⟩ :=
    ProcessDefinitionSuspension.mk.inj hReread
  exact ⟨Selector.name_eq_of_ofName_eq hSelector, hTenant, hProcess, hKey, hInclude⟩

end ProcessDefinitionSuspension

/-! ## Both families -/

namespace ActivationState

/-- The handlers of both families read the canonical text of any configuration, as it was written
but for an unrecognised selector that holds a known name. Texts of configurations that differ in
the tenant, in a target field or in the flag differ. -/
theorem read_canonical (σ : Type) (state : ActivationState) (layout : Layout) :
    (∀ c : JobDefinitionSuspension,
      (JobDefinitionSuspension.handler σ state).read
          ((JobDefinitionSuspension.handler σ state).write layout c) =
        .ok { c with selector := Selector.ofName c.selector.name } ∧
      ((JobDefinitionSuspension.handler σ state).read
          ((JobDefinitionSuspension.handler σ state).write layout c) = .ok c ↔
        ∀ name ∈ Selector.knownNames, c.selector ≠ .unrecognized name) ∧
      ∀ (otherLayout : Layout) (other : JobDefinitionSuspension),
        (JobDefinitionSuspension.handler σ state).write layout c =
          (JobDefinitionSuspension.handler σ state).write otherLayout other →
        c.selector.name = other.selector.name ∧ c.tenant = other.tenant ∧
          c.jobDefinitionId = other.jobDefinitionId ∧
          c.processDefinitionId = other.processDefinitionId ∧
          c.processDefinitionKey = other.processDefinitionKey ∧
          c.includeJobs = other.includeJobs) ∧
    ∀ c : ProcessDefinitionSuspension,
      (ProcessDefinitionSuspension.handler σ state).read
          ((ProcessDefinitionSuspension.handler σ state).write layout c) =
        .ok { c with selector := Selector.ofName c.selector.name } ∧
      ((ProcessDefinitionSuspension.handler σ state).read
          ((ProcessDefinitionSuspension.handler σ state).write layout c) = .ok c ↔
        ∀ name ∈ Selector.knownNames, c.selector ≠ .unrecognized name) ∧
      ∀ (otherLayout : Layout) (other : ProcessDefinitionSuspension),
        (ProcessDefinitionSuspension.handler σ state).write layout c =
          (ProcessDefinitionSuspension.handler σ state).write otherLayout other →
        c.selector.name = other.selector.name ∧ c.tenant = other.tenant ∧
          c.processDefinitionId = other.processDefinitionId ∧
          c.processDefinitionKey = other.processDefinitionKey ∧
          c.includeProcessInstances = other.includeProcessInstances := by
  refine ⟨fun c => ?_, fun c => ?_⟩
  · have hRead : (JobDefinitionSuspension.handler σ state).read =
        JobDefinitionSuspension.format.parse := by cases state <;> rfl
    have hWrite : (JobDefinitionSuspension.handler σ state).write =
        JobDefinitionSuspension.format.canonical := by cases state <;> rfl
    rw [hRead, hWrite, c.parse_canonical layout]
    refine ⟨rfl, ?_, fun _ _ => JobDefinitionSuspension.fields_eq_of_canonical_eq⟩
    rw [← JobDefinitionSuspension.reread_eq_self_iff, Except.ok.injEq]
  · have hRead : (ProcessDefinitionSuspension.handler σ state).read =
        ProcessDefinitionSuspension.format.parse := by cases state <;> rfl
    have hWrite : (ProcessDefinitionSuspension.handler σ state).write =
        ProcessDefinitionSuspension.format.canonical := by cases state <;> rfl
    rw [hRead, hWrite, c.parse_canonical layout]
    refine ⟨rfl, ?_, fun _ _ => ProcessDefinitionSuspension.fields_eq_of_canonical_eq⟩
    rw [← ProcessDefinitionSuspension.reread_eq_self_iff, Except.ok.injEq]

/-- Selectors of one name share a text, and the one that is not recognised is read as the other. A
tenant of an empty name is not no tenant. -/
theorem read_canonical_confused_selector :
    (JobDefinitionSuspension.handler Unit .active).write .compact
        { selector := .unrecognized "processDefinitionKey", includeJobs := true,
          tenant := .tenant "" } =
      (JobDefinitionSuspension.handler Unit .active).write .compact
        { selector := .processDefinitionKey, includeJobs := true, tenant := .tenant "" } ∧
    (Selector.unrecognized "processDefinitionKey").name = Selector.processDefinitionKey.name ∧
    (JobDefinitionSuspension.handler Unit .active).read
        ((JobDefinitionSuspension.handler Unit .active).write .compact
          { selector := .unrecognized "processDefinitionKey", includeJobs := true,
            tenant := .tenant "" }) =
      .ok { selector := .processDefinitionKey, includeJobs := true, tenant := .tenant "" } ∧
    ∀ layout, (JobDefinitionSuspension.handler Unit .active).write .compact
        { selector := .processDefinitionKey, includeJobs := true, tenant := .tenant "" } ≠
      (JobDefinitionSuspension.handler Unit .active).write layout
        { selector := .processDefinitionKey, includeJobs := true, tenant := .withoutTenant } := by
  have hText : (JobDefinitionSuspension.handler Unit .active).write .compact
        { selector := .unrecognized "processDefinitionKey", includeJobs := true,
          tenant := .tenant "" } =
      (JobDefinitionSuspension.handler Unit .active).write .compact
        { selector := .processDefinitionKey, includeJobs := true, tenant := .tenant "" } := rfl
  obtain ⟨hJob, -⟩ := read_canonical Unit .active .compact
  refine ⟨hText, ((hJob _).2.2 .compact _ hText).1, (hJob _).1, fun layout hEqual => ?_⟩
  have hTenant := ((hJob _).2.2 layout _ hEqual).2.1
  cases hTenant

end ActivationState

end DeferredJobs
