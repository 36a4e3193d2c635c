import DeferredJobs.Batch.Format
import DeferredJobs.Cleanup
import DeferredJobs.Proofs.Tolerance.Change
import DeferredJobs.Query.Format
import DeferredJobs.Query.VariableFilter
import DeferredJobs.Suspension.Configuration

/-!
# What each format tolerates

Every format has its fields with their roles, and reads the same after a change that they allow.
The exception is the refusal of a modification instruction without a kind, which lists all names of
the object: there the results agree but for these names.

* `MigrationPlan.read_change`, `Batch.Migration.read_change`: a plan inside a batch, an instruction
  inside a plan.
* `ModificationInstruction.read_change`: the exception, and `Batch.Modification.read_change`,
  `Batch.Restart.read_change` for batches of instructions.
* `Query.SortKey.readList_change`: sort keys, and conditions inside sort keys.
-/

namespace DeferredJobs

variable {o o' : Object}

/-! ## Migration plans -/

def MigrationInstruction.fields : List (String × Role) :=
  [("sourceActivityIds", .leading), ("targetActivityIds", .leading),
    ("updateEventTrigger", .optional .flag)]

theorem MigrationInstruction.read_change (h : Object.Change fields o o') :
    format.read o' = format.read o := by
  simp only [format, h.requireFirst "sourceActivityIds" rfl,
    h.requireFirst "targetActivityIds" rfl, h.flag "updateEventTrigger" rfl]

def MigrationPlan.fields : List (String × Role) :=
  [("sourceProcessDefinitionId", .exact), ("targetProcessDefinitionId", .exact),
    ("instructions", .records MigrationInstruction.fields)]

theorem MigrationPlan.read_change (h : Object.Change fields o o') :
    format.read o' = format.read o := by
  simp only [format, h.require .string "sourceProcessDefinitionId" rfl,
    h.require .string "targetProcessDefinitionId" rfl]
  rcases h.requireRecords "instructions" rfl with hSame | ⟨i, i', before, after, hInner, hOld, hNew⟩
  · rw [hSame]
  · have hItem := MigrationInstruction.read_change hInner
    simp only [hOld, hNew, ok_bind, readAll_eq hItem "instructions" before after]

namespace Batch

/-! ## Batches -/

def Deletion.fields : List (String × Role) :=
  [("historicDecisionInstanceIds", .exact)]

theorem Deletion.read_change (h : Object.Change fields o o') : format.read o' = format.read o := by
  simp only [format, h.requireStrings "historicDecisionInstanceIds" rfl]

def Retries.fieldsOf (idsField : String) : List (String × Role) :=
  [(idsField, .exact), ("retries", .exact)]

theorem Retries.read_change {idsField : String} (h : Object.Change (fieldsOf idsField) o o') :
    (formatOf idsField).read o' = (formatOf idsField).read o := by
  have hIds : Entries.find? (fieldsOf idsField) idsField = some .exact := by
    rw [fieldsOf, Entries.find?_cons, if_pos rfl]
  have hRetries : Entries.find? (fieldsOf idsField) "retries" = some .exact := by
    rw [fieldsOf, Entries.find?_cons]
    split <;> rfl
  simp only [formatOf, h.requireStrings idsField hIds, h.require .int32 "retries" hRetries]

def Migration.fields : List (String × Role) :=
  [("processInstanceIds", .exact), ("migrationPlan", .record MigrationPlan.fields),
    ("skipListeners", .optional .flag), ("skipIoMappings", .optional .flag)]

theorem Migration.read_change (h : Object.Change fields o o') :
    format.read o' = format.read o := by
  simp only [format, h.requireStrings "processInstanceIds" rfl, h.flag "skipListeners" rfl,
    h.flag "skipIoMappings" rfl]
  rcases h.requireRecord "migrationPlan" rfl with hSame | ⟨plan, plan', hInner, hOld, hNew⟩
  · rw [hSame]
  · simp only [hOld, hNew, ok_bind, MigrationPlan.read_change hInner]

end Batch

/-! ## Modification instructions -/

namespace ModificationInstruction

def fields : List (String × Role) :=
  Kind.all.map (fun kind => (kind.discriminator, .exact)) ++
    [("processInstances", .exact), ("cancelCurrentActiveActivityInstances", .optional .flag)]

theorem find?_discriminator (kind : Kind) :
    Entries.find? fields kind.discriminator = some .exact := by
  cases kind <;> rfl

theorem ofObject?_change (h : Object.Change fields o o') :
    Kind.ofObject? o' = Kind.ofObject? o := by
  have hContains : (fun kind : Kind => o'.contains kind.discriminator) =
      fun kind => o.contains kind.discriminator := by
    funext kind
    exact h.contains kind.discriminator (find?_discriminator kind)
  rw [Kind.ofObject?, Kind.ofObject?, hContains]

theorem readKind_change (h : Object.Change fields o o') (kind : Kind) :
    readKind o' kind = readKind o kind := by
  have hName := h.require .string kind.discriminator (find?_discriminator kind)
  have hInstance := h.require .string "processInstances" rfl
  have hFlag := h.flag "cancelCurrentActiveActivityInstances" rfl
  cases kind <;> simp only [readKind, hName, hInstance, hFlag]

end ModificationInstruction

/-- The same error, but for the names that the refusal of an instruction lists. -/
def ConfigurationError.withoutNames : ConfigurationError → ConfigurationError
  | .unrecognizedInstruction _ => .unrecognizedInstruction []
  | e => e

namespace ModificationInstruction

theorem read_change (h : Object.Change fields o o') :
    (format.read o').mapError ConfigurationError.withoutNames =
      (format.read o).mapError ConfigurationError.withoutNames := by
  simp only [format, ofObject?_change h]
  cases Kind.ofObject? o with
  | some kind => exact congrArg (Except.mapError _) (readKind_change h kind)
  | none => rfl

end ModificationInstruction

namespace Batch

theorem readInstructions_change {fields : List (String × Role)} (h : Object.Change fields o o')
    (hRole : Entries.find? fields "instructions" = some (.records ModificationInstruction.fields)) :
    (readInstructions o').mapError ConfigurationError.withoutNames =
      (readInstructions o).mapError ConfigurationError.withoutNames := by
  rw [readInstructions, readInstructions]
  rcases h.requireRecords "instructions" hRole with
    hSame | ⟨i, i', before, after, hInner, hOld, hNew⟩
  · rw [hSame]
  · rw [hOld, hNew, ok_bind, ok_bind]
    exact mapError_readAll (ModificationInstruction.read_change hInner) "instructions" before after

def Modification.fields : List (String × Role) :=
  [("processInstanceIds", .exact), ("processDefinitionId", .exact),
    ("instructions", .records ModificationInstruction.fields),
    ("skipListeners", .optional .flag), ("skipIoMappings", .optional .flag)]

theorem Modification.read_change (h : Object.Change fields o o') :
    (format.read o').mapError ConfigurationError.withoutNames =
      (format.read o).mapError ConfigurationError.withoutNames := by
  simp only [format, h.requireStrings "processInstanceIds" rfl,
    h.require .string "processDefinitionId" rfl, h.flag "skipListeners" rfl,
    h.flag "skipIoMappings" rfl]
  refine mapError_bind rfl fun ids => ?_
  refine mapError_bind rfl fun processDefinition => ?_
  exact mapError_bind (readInstructions_change h rfl) fun instructions => rfl

def Restart.fields : List (String × Role) :=
  [("processInstanceIds", .exact), ("instructions", .records ModificationInstruction.fields),
    ("processDefinitionId", .exact), ("initialVariables", .optional .flag),
    ("skipCustomListeners", .optional .flag), ("skipIoMappings", .optional .flag),
    ("withoutBusinessKey", .optional .flag)]

theorem Restart.read_change (h : Object.Change fields o o') :
    (format.read o').mapError ConfigurationError.withoutNames =
      (format.read o).mapError ConfigurationError.withoutNames := by
  simp only [format, h.requireStrings "processInstanceIds" rfl,
    h.require .string "processDefinitionId" rfl, h.flag "initialVariables" rfl,
    h.flag "skipCustomListeners" rfl, h.flag "skipIoMappings" rfl, h.flag "withoutBusinessKey" rfl]
  refine mapError_bind rfl fun ids => ?_
  exact mapError_bind (readInstructions_change h rfl) fun instructions => rfl

end Batch

/-! ## Sort keys -/

theorem Object.Change.column? {fields : List (String × Role)} (h : Object.Change fields o o')
    (name functionName : String) (hName : Entries.find? fields name = some (.optional .exact))
    (hFunction : Entries.find? fields functionName = some (.optional .exact)) :
    o'.column? name functionName = o.column? name functionName := by
  simp only [Object.column?, h.get? .string name hName, h.get? .string functionName hFunction]

namespace Query

def Condition.fields : List (String × Role) :=
  [("baseField", .optional .exact), ("baseFieldFunction", .optional .exact),
    ("comparisonField", .optional .exact), ("comparisonFieldFunction", .optional .exact),
    ("value", .optional .exact)]

theorem Condition.read_change (h : Object.Change fields o o') :
    format.read o' = format.read o := by
  simp only [format, h.column? "baseField" "baseFieldFunction" rfl rfl,
    h.column? "comparisonField" "comparisonFieldFunction" rfl rfl, h.get? .string "value" rfl]

namespace SortKey

def fields : List (String × Role) :=
  [("relation", .optional .exact), ("queryProperty", .optional .exact),
    ("queryPropertyFunction", .optional .exact), ("direction", .optional .exact),
    ("relationProperties", .optional (.records Condition.fields))]

theorem readConditions_change (h : Object.Change fields o o') :
    readConditions o' = readConditions o := by
  rw [readConditions, readConditions]
  rcases h.getRecords "relationProperties" rfl with
    hSame | ⟨i, i', before, after, hInner, hOld, hNew⟩
  · rw [hSame]
  · rw [hOld, hNew, ok_bind, ok_bind]
    exact readAll_eq (Condition.read_change hInner) "relationProperties" before after

theorem read_change (h : Object.Change fields o o') : format.read o' = format.read o := by
  simp only [format, h.get? .string "relation" rfl,
    h.column? "queryProperty" "queryPropertyFunction" rfl rfl, readDirection,
    h.get? .string "direction" rfl, readConditions_change h]

def listFields : List (String × Role) :=
  [("orderingProperties", .optional (.records fields)), ("orderBy", .optional .exact)]

theorem readList_change (h : Object.Change listFields o o') : readList o' = readList o := by
  simp only [readList, h.get? .string "orderBy" rfl]
  rcases h.getRecords "orderingProperties" rfl with
    hSame | ⟨i, i', before, after, hInner, hOld, hNew⟩
  · rw [hSame]
  · rw [hOld, hNew, ok_bind, ok_bind]
    exact readAll_eq (read_change hInner) "orderingProperties" before after

end SortKey

/-! ## Other formats -/

def VariableFilter.fields : List (String × Role) :=
  [("operator", .exact), ("name", .exact), ("taskVariable", .optional .flag),
    ("processVariable", .optional .flag), ("value", .optional .exact)]

theorem VariableFilter.read_change (h : Object.Change fields o o') :
    format.read o' = format.read o := by
  simp only [format, h.require .string "operator" rfl, h.require .string "name" rfl,
    h.flag "taskVariable" rfl, h.flag "processVariable" rfl, h.getD_null "value" rfl]

end Query

def JobDefinitionSuspension.fields : List (String × Role) :=
  [("by", .exact), ("jobDefinitionId", .optional .exact),
    ("processDefinitionId", .optional .exact), ("processDefinitionKey", .optional .exact),
    ("includeJobs", .optional .flag), ("processDefinitionTenantId", .exact)]

theorem JobDefinitionSuspension.read_change (h : Object.Change fields o o') :
    format.read o' = format.read o := by
  simp only [format, h.require .string "by" rfl, h.get? .string "jobDefinitionId" rfl,
    h.get? .string "processDefinitionId" rfl, h.get? .string "processDefinitionKey" rfl,
    h.flag "includeJobs" rfl, h.tenant "processDefinitionTenantId" rfl]

def ProcessDefinitionSuspension.fields : List (String × Role) :=
  [("by", .exact), ("processDefinitionId", .optional .exact),
    ("processDefinitionKey", .optional .exact), ("includeProcessInstances", .optional .flag),
    ("processDefinitionTenantId", .exact)]

theorem ProcessDefinitionSuspension.read_change (h : Object.Change fields o o') :
    format.read o' = format.read o := by
  simp only [format, h.require .string "by" rfl, h.get? .string "processDefinitionId" rfl,
    h.get? .string "processDefinitionKey" rfl, h.flag "includeProcessInstances" rfl,
    h.tenant "processDefinitionTenantId" rfl]

def Cleanup.fields : List (String × Role) :=
  [("countEmptyRuns", .optional .exact), ("immediatelyDue", .optional .flag),
    ("minuteFrom", .exact), ("minuteTo", .exact)]

theorem Cleanup.read_change (h : Object.Change fields o o') : format.read o' = format.read o := by
  simp only [format, h.get? .uint32 "countEmptyRuns" rfl, h.flag "immediatelyDue" rfl,
    h.require .uint32 "minuteFrom" rfl, h.require .uint32 "minuteTo" rfl]

end DeferredJobs
