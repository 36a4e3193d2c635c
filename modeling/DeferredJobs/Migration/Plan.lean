/-!
# Migration plans

A plan maps activities of one process definition to activities of another. It is built from steps:
mappings are added at the end, and a trigger step marks the mapping that was added last.
-/

namespace DeferredJobs

structure MigrationInstruction where
  source : String
  target : String
  /-- The event trigger of the target activity is evaluated anew. -/
  updateEventTrigger : Bool
  deriving DecidableEq

structure MigrationPlan where
  /-- The process definition to migrate from. -/
  source : String
  /-- The process definition to migrate to. -/
  target : String
  instructions : List MigrationInstruction
  deriving DecidableEq

namespace MigrationPlan

inductive Step where
  | map (source target : String)
  /-- Each activity is mapped to the one of the same name. -/
  | mapEqual (activities : List String)
  /-- Marks the mapping added last, if there is one. -/
  | updateEventTrigger

def markLast : List MigrationInstruction → List MigrationInstruction
  | [] => []
  | [last] => [{ last with updateEventTrigger := true }]
  | first :: second :: rest => first :: markLast (second :: rest)

def Step.apply (instructions : List MigrationInstruction) : Step → List MigrationInstruction
  | .map source target => instructions ++ [⟨source, target, false⟩]
  | .mapEqual activities => instructions ++ activities.map fun id => ⟨id, id, false⟩
  | .updateEventTrigger => markLast instructions

def build (source target : String) (steps : List Step) : MigrationPlan :=
  ⟨source, target, steps.foldl Step.apply []⟩

end MigrationPlan

end DeferredJobs
