import DeferredJobs.Configuration.Format

/-!
# Modification instructions

An instruction changes the structure of a running process instance. Its object carries one of
six names that tell what it does. Where several are present the first in the order of `Kind.all`
decides, even if it holds null, and nothing falls through to a later one.
-/

namespace DeferredJobs

inductive ModificationInstruction where
  | startBefore (activity : String)
  | startAfter (activity : String)
  | startTransition (transition : String)
  /-- Cancels the instances of an activity, or only those active when the instruction runs. -/
  | cancelAll (activity : String) (onlyActive : Bool)
  | cancelActivityInstance (processInstance activityInstance : String)
  | cancelTransitionInstance (processInstance transitionInstance : String)
  deriving DecidableEq

namespace ModificationInstruction

inductive Kind where
  | startBefore | startAfter | startTransition
  | cancelAll | cancelActivityInstance | cancelTransitionInstance
  deriving DecidableEq

namespace Kind

/-- In the order in which their names are looked for. -/
def all : List Kind :=
  [startBefore, startAfter, startTransition, cancelAll, cancelActivityInstance,
    cancelTransitionInstance]

/-- The name that tells the kind of an instruction. -/
def discriminator : Kind → String
  | startBefore => "startBeforeActivity"
  | startAfter => "startAfterActivity"
  | startTransition => "startTransition"
  | cancelAll => "cancelAllForActivity"
  | cancelActivityInstance => "cancelActivityInstances"
  | cancelTransitionInstance => "cancelTransitionInstances"

theorem mem_all (kind : Kind) : kind ∈ all := by
  cases kind <;> decide

/-- The kind of the first discriminator present in an object. -/
def ofObject? (o : Object) : Option Kind :=
  all.find? fun kind => o.contains kind.discriminator

end Kind

def kind : ModificationInstruction → Kind
  | startBefore _ => .startBefore
  | startAfter _ => .startAfter
  | startTransition _ => .startTransition
  | cancelAll _ _ => .cancelAll
  | cancelActivityInstance _ _ => .cancelActivityInstance
  | cancelTransitionInstance _ _ => .cancelTransitionInstance

def discriminator (instruction : ModificationInstruction) : String :=
  instruction.kind.discriminator

def write (instruction : ModificationInstruction) : Object :=
  let name := instruction.discriminator
  match instruction with
  | startBefore id | startAfter id | startTransition id => Object.empty.put .string name id
  | cancelAll activity onlyActive =>
    Object.empty.put .string name activity
      |>.putFlag "cancelCurrentActiveActivityInstances" false onlyActive
  | cancelActivityInstance processInstance id | cancelTransitionInstance processInstance id =>
    Object.empty.put .string name id |>.put .string "processInstances" processInstance

/-- Reads the instruction of a kind. An instance is named after the process instance it belongs
to. -/
def readKind (o : Object) (kind : Kind) : Except ConfigurationError ModificationInstruction :=
  let name := kind.discriminator
  match kind with
  | .startBefore => return startBefore (← o.require .string name)
  | .startAfter => return startAfter (← o.require .string name)
  | .startTransition => return startTransition (← o.require .string name)
  | .cancelAll => do
    let activity ← o.require .string name
    return cancelAll activity (← o.flag "cancelCurrentActiveActivityInstances" false)
  | .cancelActivityInstance => do
    let processInstance ← o.require .string "processInstances"
    return cancelActivityInstance processInstance (← o.require .string name)
  | .cancelTransitionInstance => do
    let processInstance ← o.require .string "processInstances"
    return cancelTransitionInstance processInstance (← o.require .string name)

def format : Format ModificationInstruction where
  write := write
  read o :=
    match Kind.ofObject? o with
    | some kind => readKind o kind
    | none => .error (.unrecognizedInstruction o.names)

end ModificationInstruction

end DeferredJobs
