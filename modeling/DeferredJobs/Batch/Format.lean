import DeferredJobs.Batch.Configuration
import DeferredJobs.Migration.Format

/-!
# The formats of batches

Fields are read in the order in which the formats list them, and the first fault is the answer.
Flags are false unless written. What migrations and modifications skip of listeners stands under
another name than in restarts.
-/

namespace DeferredJobs.Batch

def Deletion.format : Format Deletion where
  write b := Object.empty.putStrings "historicDecisionInstanceIds" b.ids
  read o := return ⟨← o.requireStrings "historicDecisionInstanceIds"⟩

namespace Retries

/-- The format of retries whose targets stand under a name of their own. -/
def formatOf (idsField : String) : Format Retries where
  write b := Object.empty.putStrings idsField b.ids |>.put .int32 "retries" b.retries
  read o := do
    let ids ← o.requireStrings idsField
    let retries ← o.require .int32 "retries"
    return { ids, retries }

def jobIdsField : String := "jobIds"

def externalTaskIdsField : String := "externalTaskIds"

def jobFormat : Format Retries := formatOf jobIdsField

def externalTaskFormat : Format Retries := formatOf externalTaskIdsField

end Retries

def Migration.format : Format Migration where
  write b :=
    Object.empty
      |>.put .object "migrationPlan" (MigrationPlan.format.write b.plan)
      |>.putStrings "processInstanceIds" b.ids
      |>.putFlag "skipListeners" false b.skipCustomListeners
      |>.putFlag "skipIoMappings" false b.skipIoMappings
  read o := do
    let ids ← o.requireStrings "processInstanceIds"
    let plan ← MigrationPlan.format.read (← o.require .object "migrationPlan")
    let skipCustomListeners ← o.flag "skipListeners" false
    let skipIoMappings ← o.flag "skipIoMappings" false
    return { ids, plan, skipCustomListeners, skipIoMappings }

/-- The instructions of a modification or a restart. -/
def readInstructions (o : Object) : Except ConfigurationError (List ModificationInstruction) := do
  ModificationInstruction.format.readAll "instructions" (← o.require .array "instructions")

def Modification.format : Format Modification where
  write b :=
    Object.empty
      |>.put .array "instructions" (ModificationInstruction.format.writeAll b.instructions)
      |>.putStrings "processInstanceIds" b.ids
      |>.put .string "processDefinitionId" b.processDefinition
      |>.putFlag "skipListeners" false b.skipCustomListeners
      |>.putFlag "skipIoMappings" false b.skipIoMappings
  read o := do
    let ids ← o.requireStrings "processInstanceIds"
    let processDefinition ← o.require .string "processDefinitionId"
    let instructions ← readInstructions o
    let skipCustomListeners ← o.flag "skipListeners" false
    let skipIoMappings ← o.flag "skipIoMappings" false
    return { ids, processDefinition, instructions, skipCustomListeners, skipIoMappings }

def Restart.format : Format Restart where
  write b :=
    Object.empty
      |>.putStrings "processInstanceIds" b.ids
      |>.put .string "processDefinitionId" b.processDefinition
      |>.put .array "instructions" (ModificationInstruction.format.writeAll b.instructions)
      |>.putFlag "initialVariables" false b.initialVariables
      |>.putFlag "skipCustomListeners" false b.skipCustomListeners
      |>.putFlag "skipIoMappings" false b.skipIoMappings
      |>.putFlag "withoutBusinessKey" false b.withoutBusinessKey
  read o := do
    let ids ← o.requireStrings "processInstanceIds"
    let instructions ← readInstructions o
    let processDefinition ← o.require .string "processDefinitionId"
    let initialVariables ← o.flag "initialVariables" false
    let skipCustomListeners ← o.flag "skipCustomListeners" false
    let skipIoMappings ← o.flag "skipIoMappings" false
    let withoutBusinessKey ← o.flag "withoutBusinessKey" false
    return {
      ids, instructions, processDefinition, initialVariables, skipCustomListeners, skipIoMappings,
      withoutBusinessKey }

end DeferredJobs.Batch
