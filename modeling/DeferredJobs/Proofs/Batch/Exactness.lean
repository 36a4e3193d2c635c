import DeferredJobs.Batch.Format
import DeferredJobs.Proofs.Configuration.Demand

/-!
# Batches are read exactly by their demands

What a format demands of an object is the list of its fields in the order of reading. It can be read
exactly if it meets all of them, and otherwise the answer is the fault of the first that it does
not meet. For the fields inside a migration plan, and inside the items of an array, the same holds
one level deeper. Modifications and restarts demand the same fields in different orders.

* `MigrationInstruction.decided`, `MigrationPlan.decided`: plans, and the instructions inside.
* `Batch.read_decided`: all batches.
-/

namespace DeferredJobs

open Demand

/-! ## Migration plans -/

/-- The activities come in arrays, of which the first element counts alone. -/
def MigrationInstruction.demand : Demand :=
  .all [leadingString "sourceActivityIds", leadingString "targetActivityIds",
    flag "updateEventTrigger"]

theorem MigrationInstruction.decided (o : Object) : demand.Decided o (format.read o) := by
  refine .cons (decided_leadingString o "sourceActivityIds") fun source => ?_
  refine .cons (decided_leadingString o "targetActivityIds") fun target => ?_
  refine .cons (decided_flag o "updateEventTrigger") fun updateEventTrigger => ?_
  exact .nil _

def MigrationPlan.demand : Demand :=
  .all [field .string "sourceProcessDefinitionId", field .string "targetProcessDefinitionId",
    records "instructions" MigrationInstruction.demand]

theorem MigrationPlan.decided (o : Object) : demand.Decided o (format.read o) := by
  refine .cons (decided_field FieldType.exact_string o "sourceProcessDefinitionId") fun source => ?_
  refine .cons (decided_field FieldType.exact_string o "targetProcessDefinitionId") fun target => ?_
  rw [← bind_assoc]
  refine .cons (decided_records MigrationInstruction.decided o "instructions") fun instructions => ?_
  exact .nil _

/-! ## Batches -/

namespace Batch

/-- An array of objects, each of which can be read as an instruction. -/
def readableInstructions : Demand :=
  records "instructions" (readable ModificationInstruction.format)

theorem decided_readInstructions (o : Object) :
    readableInstructions.Decided o (readInstructions o) :=
  decided_records (decided_readable ModificationInstruction.format) o "instructions"

def Deletion.demand : Demand :=
  .all [strings "historicDecisionInstanceIds"]

theorem Deletion.decided (o : Object) : demand.Decided o (format.read o) := by
  refine .cons (decided_strings o "historicDecisionInstanceIds") fun ids => ?_
  exact .nil _

def Retries.demandOf (idsField : String) : Demand :=
  .all [strings idsField, field .int32 "retries"]

theorem Retries.decided (idsField : String) (o : Object) :
    (demandOf idsField).Decided o ((formatOf idsField).read o) := by
  refine .cons (decided_strings o idsField) fun ids => ?_
  refine .cons (decided_field FieldType.exact_int32 o "retries") fun retries => ?_
  exact .nil _

def Migration.demand : Demand :=
  .all [strings "processInstanceIds", record "migrationPlan" MigrationPlan.demand,
    flag "skipListeners", flag "skipIoMappings"]

theorem Migration.decided (o : Object) : demand.Decided o (format.read o) := by
  refine .cons (decided_strings o "processInstanceIds") fun ids => ?_
  rw [← bind_assoc]
  refine .cons (decided_record MigrationPlan.decided o "migrationPlan") fun plan => ?_
  refine .cons (decided_flag o "skipListeners") fun skipCustomListeners => ?_
  refine .cons (decided_flag o "skipIoMappings") fun skipIoMappings => ?_
  exact .nil _

def Modification.demand : Demand :=
  .all [strings "processInstanceIds", field .string "processDefinitionId", readableInstructions,
    flag "skipListeners", flag "skipIoMappings"]

theorem Modification.decided (o : Object) : demand.Decided o (format.read o) := by
  refine .cons (decided_strings o "processInstanceIds") fun ids => ?_
  refine .cons (decided_field FieldType.exact_string o "processDefinitionId") fun definition => ?_
  refine .cons (decided_readInstructions o) fun instructions => ?_
  refine .cons (decided_flag o "skipListeners") fun skipCustomListeners => ?_
  refine .cons (decided_flag o "skipIoMappings") fun skipIoMappings => ?_
  exact .nil _

def Restart.demand : Demand :=
  .all [strings "processInstanceIds", readableInstructions, field .string "processDefinitionId",
    flag "initialVariables", flag "skipCustomListeners", flag "skipIoMappings",
    flag "withoutBusinessKey"]

theorem Restart.decided (o : Object) : demand.Decided o (format.read o) := by
  refine .cons (decided_strings o "processInstanceIds") fun ids => ?_
  refine .cons (decided_readInstructions o) fun instructions => ?_
  refine .cons (decided_field FieldType.exact_string o "processDefinitionId") fun definition => ?_
  refine .cons (decided_flag o "initialVariables") fun initialVariables => ?_
  refine .cons (decided_flag o "skipCustomListeners") fun skipCustomListeners => ?_
  refine .cons (decided_flag o "skipIoMappings") fun skipIoMappings => ?_
  refine .cons (decided_flag o "withoutBusinessKey") fun withoutBusinessKey => ?_
  exact .nil _

/-- Each format reads exactly the objects that meet its demand, and answers the others with the fault
of the first field, in its own order, that has one. -/
theorem read_decided (o : Object) :
    Deletion.demand.Decided o (Deletion.format.read o) ∧
    (Retries.demandOf Retries.jobIdsField).Decided o (Retries.jobFormat.read o) ∧
    (Retries.demandOf Retries.externalTaskIdsField).Decided o (Retries.externalTaskFormat.read o) ∧
    Migration.demand.Decided o (Migration.format.read o) ∧
    Modification.demand.Decided o (Modification.format.read o) ∧
    Restart.demand.Decided o (Restart.format.read o) :=
  ⟨Deletion.decided o, Retries.decided _ o, Retries.decided _ o, Migration.decided o,
    Modification.decided o, Restart.decided o⟩

/-- With nothing but ids, the two formats that demand the same fields name different ones. -/
example :
    Modification.format.read (Object.empty.putStrings "processInstanceIds" []) =
      .error (.missingField "processDefinitionId") ∧
    Restart.format.read (Object.empty.putStrings "processInstanceIds" []) =
      .error (.missingField "instructions") :=
  ⟨rfl, rfl⟩

end Batch

end DeferredJobs
