import DeferredJobs.Suspension.Request
import DeferredJobs.Suspension.Selector
import Mathlib.Data.List.Induction

/-!
# Requests after any steps

Every step assigns a value to one field of a request, and the fields are all that a request keeps of
the steps. So after any steps each field holds what was assigned to it last, and steps on different
fields may be taken in any order.

Both families take the same assignments, except that processes are not selected by the id of a job
definition.

* `JobDefinitionRequest.ofSteps_eq`, `ProcessDefinitionRequest.ofSteps_eq`: the request after any
  steps.
* `JobDefinitionRequest.ofSteps_eq_of_sameByField`,
  `ProcessDefinitionRequest.ofSteps_eq_of_sameByField`: steps in another order.
-/

namespace DeferredJobs

/-! ## Assignments -/

/-- The fields of requests. -/
inductive RequestField where
  | target (selector : Selector)
  | tenant
  | inclusion
  deriving DecidableEq

/-- What a step assigns. A tenant without a name stands for no tenant. -/
inductive Assignment where
  | target (selector : Selector) (value : String)
  | tenant (id : Option String)
  | inclusion (value : Bool)

namespace Assignment

def field : Assignment → RequestField
  | target selector _ => .target selector
  | tenant _ => .tenant
  | inclusion _ => .inclusion

def fields (assignments : List Assignment) : List RequestField :=
  assignments.map field

def value? (selector : Selector) : Assignment → Option String
  | target other value => if other = selector then some value else none
  | tenant _ | inclusion _ => none

def tenant? : Assignment → Option (Option String)
  | tenant id => some id
  | target _ _ | inclusion _ => none

def inclusion? : Assignment → Option Bool
  | inclusion value => some value
  | target _ _ | tenant _ => none

/-- What was assigned last to the field of a selector. -/
def lastValue (selector : Selector) (assignments : List Assignment) : Option String :=
  (assignments.filterMap (value? selector)).getLast?

/-- The restriction that was assigned last. -/
def lastTenant (assignments : List Assignment) : TenantScope :=
  ((assignments.filterMap tenant?).getLast?.map TenantScope.explicit).getD .notConsidered

def lastInclusion (assignments : List Assignment) : Bool :=
  (assignments.filterMap inclusion?).getLast?.getD false

/-! ### One more assignment -/

section Concat

variable (assignments : List Assignment) (last : Assignment)

theorem getLast?_filterMap_concat {α : Type} (f : Assignment → Option α) :
    ((assignments ++ [last]).filterMap f).getLast? =
      (f last).or (assignments.filterMap f).getLast? := by
  rw [List.filterMap_append, List.getLast?_append]
  cases hLast : f last <;> simp [hLast]

theorem lastValue_concat (selector : Selector) :
    lastValue selector (assignments ++ [last]) =
      (last.value? selector).or (lastValue selector assignments) :=
  getLast?_filterMap_concat assignments last (value? selector)

theorem lastTenant_concat :
    lastTenant (assignments ++ [last]) =
      (last.tenant?.map TenantScope.explicit).getD (lastTenant assignments) := by
  rw [lastTenant, getLast?_filterMap_concat]
  cases last.tenant? <;> rfl

theorem lastInclusion_concat :
    lastInclusion (assignments ++ [last]) =
      last.inclusion?.getD (lastInclusion assignments) := by
  rw [lastInclusion, getLast?_filterMap_concat]
  cases last.inclusion? <;> rfl

end Concat

/-! ### What there is a last assignment to -/

theorem mem_fields_concat {f : RequestField} {assignments : List Assignment} {last : Assignment} :
    f ∈ fields (assignments ++ [last]) ↔ f = last.field ∨ f ∈ fields assignments := by
  simp [fields, or_comm]

theorem isSome_lastValue (selector : Selector) (assignments : List Assignment) :
    (lastValue selector assignments).isSome ↔ .target selector ∈ fields assignments := by
  induction assignments using List.reverseRecOn with
  | nil => simp [lastValue, fields]
  | append_singleton assignments last ih =>
    rw [lastValue_concat, mem_fields_concat, ← ih]
    cases last with
    | target other value =>
      by_cases hOther : other = selector
      · simp [value?, field, hOther]
      · simp [value?, field, hOther, Ne.symm hOther]
    | tenant | inclusion => simp [value?, field]

theorem isSet_lastTenant (assignments : List Assignment) :
    (lastTenant assignments).isSet ↔ .tenant ∈ fields assignments := by
  induction assignments using List.reverseRecOn with
  | nil => simp [lastTenant, fields, TenantScope.isSet]
  | append_singleton assignments last ih =>
    rw [lastTenant_concat, mem_fields_concat, ← ih]
    cases last with
    | tenant id => cases id <;> simp [tenant?, field, TenantScope.explicit, TenantScope.isSet]
    | target | inclusion => simp [tenant?, field]

/-! ### Assignments to different fields -/

/-- To each field the same is assigned in the same order. -/
def SameByField (xs ys : List Assignment) : Prop :=
  ∀ f, xs.filter (·.field = f) = ys.filter (·.field = f)

section SameByField

variable {xs ys : List Assignment} (h : SameByField xs ys)
include h

theorem SameByField.filterMap_eq {α : Type} {part : Assignment → Option α} {f : RequestField}
    (hPart : ∀ a : Assignment, a.field ≠ f → part a = none) :
    xs.filterMap part = ys.filterMap part := by
  have restrict (assignments : List Assignment) : assignments.filterMap part =
      (assignments.filter (·.field = f)).filterMap part := by
    rw [List.filterMap_filter]
    congr 1
    funext a
    by_cases hField : a.field = f
    · simp [hField]
    · simp [hField, hPart a hField]
  rw [restrict xs, restrict ys, h f]

theorem SameByField.lastValue_eq (selector : Selector) :
    lastValue selector xs = lastValue selector ys := by
  have hPart (a : Assignment) (hField : a.field ≠ .target selector) :
      a.value? selector = none := by
    cases a with
    | target other value => exact if_neg fun hOther => hField (congrArg RequestField.target hOther)
    | tenant | inclusion => rfl
  rw [lastValue, lastValue, h.filterMap_eq hPart]

theorem SameByField.lastTenant_eq : lastTenant xs = lastTenant ys := by
  have hPart (a : Assignment) (hField : a.field ≠ .tenant) : a.tenant? = none := by
    cases a with
    | tenant id => exact absurd rfl hField
    | target | inclusion => rfl
  rw [lastTenant, lastTenant, h.filterMap_eq hPart]

theorem SameByField.lastInclusion_eq : lastInclusion xs = lastInclusion ys := by
  have hPart (a : Assignment) (hField : a.field ≠ .inclusion) : a.inclusion? = none := by
    cases a with
    | inclusion value => exact absurd rfl hField
    | target | tenant => rfl
  rw [lastInclusion, lastInclusion, h.filterMap_eq hPart]

end SameByField

end Assignment

/-! ## Job definitions -/

namespace JobDefinitionRequest

def Step.assignment : Step → Assignment
  | jobDefinitionId id => .target .jobDefinitionId id
  | processDefinitionId id => .target .processDefinitionId id
  | processDefinitionKey key => .target .processDefinitionKey key
  | tenant id => .tenant (some id)
  | withoutTenant => .tenant none
  | includeJobs value => .inclusion value

def assignments (steps : List Step) : List Assignment :=
  steps.map Step.assignment

/-- The request that holds what was assigned last to each field. -/
def ofAssignments (assignments : List Assignment) : JobDefinitionRequest where
  jobDefinitionId := Assignment.lastValue .jobDefinitionId assignments
  processDefinitionId := Assignment.lastValue .processDefinitionId assignments
  processDefinitionKey := Assignment.lastValue .processDefinitionKey assignments
  tenant := Assignment.lastTenant assignments
  includeJobs := Assignment.lastInclusion assignments

theorem apply_ofAssignments (assignments : List Assignment) (step : Step) :
    (ofAssignments assignments).apply step = ofAssignments (assignments ++ [step.assignment]) := by
  simp only [ofAssignments, Assignment.lastValue_concat, Assignment.lastTenant_concat,
    Assignment.lastInclusion_concat]
  cases step <;> rfl

theorem ofSteps_eq (steps : List Step) :
    ofSteps steps = ofAssignments (assignments steps) := by
  -- From the end, since the last step is the one that overwrites.
  induction steps using List.reverseRecOn with
  | nil => rfl
  | append_singleton steps step ih =>
    rw [ofSteps, List.foldl_append]
    show (ofSteps steps).apply step = _
    rw [ih, apply_ofAssignments, assignments, assignments, List.map_append, List.map_singleton]

theorem ofSteps_eq_of_sameByField {steps other : List Step}
    (h : Assignment.SameByField (assignments steps) (assignments other)) :
    ofSteps steps = ofSteps other := by
  simp only [ofSteps_eq, ofAssignments, h.lastValue_eq, h.lastTenant_eq, h.lastInclusion_eq]

end JobDefinitionRequest

/-! ## Process definitions -/

namespace ProcessDefinitionRequest

def Step.assignment : Step → Assignment
  | processDefinitionId id => .target .processDefinitionId id
  | processDefinitionKey key => .target .processDefinitionKey key
  | tenant id => .tenant (some id)
  | withoutTenant => .tenant none
  | includeProcessInstances value => .inclusion value

def assignments (steps : List Step) : List Assignment :=
  steps.map Step.assignment

/-- The request that holds what was assigned last to each field. -/
def ofAssignments (assignments : List Assignment) : ProcessDefinitionRequest where
  processDefinitionId := Assignment.lastValue .processDefinitionId assignments
  processDefinitionKey := Assignment.lastValue .processDefinitionKey assignments
  tenant := Assignment.lastTenant assignments
  includeProcessInstances := Assignment.lastInclusion assignments

theorem apply_ofAssignments (assignments : List Assignment) (step : Step) :
    (ofAssignments assignments).apply step = ofAssignments (assignments ++ [step.assignment]) := by
  simp only [ofAssignments, Assignment.lastValue_concat, Assignment.lastTenant_concat,
    Assignment.lastInclusion_concat]
  cases step <;> rfl

theorem ofSteps_eq (steps : List Step) :
    ofSteps steps = ofAssignments (assignments steps) := by
  induction steps using List.reverseRecOn with
  | nil => rfl
  | append_singleton steps step ih =>
    rw [ofSteps, List.foldl_append]
    show (ofSteps steps).apply step = _
    rw [ih, apply_ofAssignments, assignments, assignments, List.map_append, List.map_singleton]

theorem ofSteps_eq_of_sameByField {steps other : List Step}
    (h : Assignment.SameByField (assignments steps) (assignments other)) :
    ofSteps steps = ofSteps other := by
  simp only [ofSteps_eq, ofAssignments, h.lastValue_eq, h.lastTenant_eq, h.lastInclusion_eq]

end ProcessDefinitionRequest

end DeferredJobs
