import DeferredJobs.Migration.Plan
import DeferredJobs.Modification.Instruction

/-!
# Batches

A batch does one thing to many targets: it carries the ids of its targets, in order and with
repetitions, and what is to be done to each of them.
-/

namespace DeferredJobs.Batch

/-- Deletes historic decision instances. -/
structure Deletion where
  ids : List String
  deriving DecidableEq

/-- Sets how often jobs, or external tasks, are tried again. -/
structure Retries where
  ids : List String
  retries : Int32
  deriving DecidableEq

/-- Migrates process instances along a plan. -/
structure Migration where
  ids : List String
  plan : MigrationPlan
  skipCustomListeners : Bool
  skipIoMappings : Bool
  deriving DecidableEq

/-- Applies instructions, in order, to process instances of one definition. -/
structure Modification where
  ids : List String
  processDefinition : String
  instructions : List ModificationInstruction
  skipCustomListeners : Bool
  skipIoMappings : Bool
  deriving DecidableEq

/-- Starts finished process instances again. -/
structure Restart where
  ids : List String
  instructions : List ModificationInstruction
  processDefinition : String
  /-- With the variables of the first start instead of the last ones. -/
  initialVariables : Bool
  skipCustomListeners : Bool
  skipIoMappings : Bool
  withoutBusinessKey : Bool
  deriving DecidableEq

end DeferredJobs.Batch
