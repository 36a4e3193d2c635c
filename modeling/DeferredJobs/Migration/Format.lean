import DeferredJobs.Migration.Plan
import DeferredJobs.Configuration.Format

/-!
# The format of migration plans

An instruction names its activities in two arrays of one element each. Only the first element
counts on reading: it must be a string, and it must be there.
-/

namespace DeferredJobs

/-- The first string of an array that must not be empty. -/
def Object.requireFirst (o : Object) (name : String) : Except ConfigurationError String := do
  match ← o.require .array name with
  | [] => .error (.invalidValue name "[]")
  | first :: _ => FieldType.string.readAs (elementName name 0) first

def MigrationInstruction.format : Format MigrationInstruction where
  write instruction :=
    Object.empty
      |>.putStrings "sourceActivityIds" [instruction.source]
      |>.putStrings "targetActivityIds" [instruction.target]
      |>.putFlag "updateEventTrigger" false instruction.updateEventTrigger
  read o := do
    let source ← o.requireFirst "sourceActivityIds"
    let target ← o.requireFirst "targetActivityIds"
    let updateEventTrigger ← o.flag "updateEventTrigger" false
    return { source, target, updateEventTrigger }

def MigrationPlan.format : Format MigrationPlan where
  write plan :=
    Object.empty
      |>.put .string "sourceProcessDefinitionId" plan.source
      |>.put .string "targetProcessDefinitionId" plan.target
      |>.put .array "instructions" (MigrationInstruction.format.writeAll plan.instructions)
  read o := do
    let source ← o.require .string "sourceProcessDefinitionId"
    let target ← o.require .string "targetProcessDefinitionId"
    let instructions ← o.require .array "instructions"
    let instructions ← MigrationInstruction.format.readAll "instructions" instructions
    return { source, target, instructions }

end DeferredJobs
