import DeferredJobs.Configuration.Field
import DeferredJobs.Job.Id
import DeferredJobs.Json.Tree
import DeferredJobs.Time.Timestamp

/-!
# Job records

A record is what is kept of a job. Reading takes an object, or an array of the six fields in
order, and is strict about the fields that it knows: each at most once, texts where texts are
due. Members that it does not know only have to be well formed; their literals need not denote
anything, and they may nest to any depth.
-/

namespace DeferredJobs

structure JobRecord where
  id : JobId
  handlerType : String
  /-- The text of the configuration, read again on every attempt. -/
  configuration : String
  tenant : Option String := none
  /-- The execution that the job is attached to. -/
  execution : Option String := none
  createdAt : Instant
  deriving DecidableEq

namespace JobRecord

inductive Field where
  | id | handlerType | configuration | tenant | execution | createdAt
  deriving DecidableEq

namespace Field

/-- In the order of the array form. -/
def all : List Field :=
  [id, handlerType, configuration, tenant, execution, createdAt]

def name : Field → String
  | id => "id"
  | handlerType => "handler_type"
  | configuration => "configuration"
  | tenant => "tenant_id"
  | execution => "execution"
  | createdAt => "created_at"

def ofName? (name : String) : Option Field :=
  all.find? (·.name == name)

end Field

/-- The fields found in a text, in its order. -/
abbrev Fields := List (Field × Tree)

def Fields.find? (fields : Fields) (field : Field) : Option Tree :=
  (List.find? (fun entry => entry.1 = field) fields).map (·.2)

/-- The known members of an object, if no name is broken and no known one repeated. -/
def knownMembers? : List (Option String × Tree) → Option Fields
  | [] => some []
  | (name, value) :: rest => do
    let name ← name
    let fields ← knownMembers? rest
    match Field.ofName? name with
    | none => return fields
    | some field =>
      guard ((Fields.find? fields field).isNone)
      return (field, value) :: fields

def fields? : Tree → Option Fields
  | .object members => knownMembers? members
  | .array items => if items.length = Field.all.length then some (Field.all.zip items) else none
  | _ => none

def text? : Tree → Option String
  | .string text => text
  | _ => none

/-- A text, or null for none. -/
def optionalText? : Tree → Option (Option String)
  | .null => some none
  | tree => (text? tree).map some

def ofTree? (tree : Tree) : Option JobRecord := do
  let fields ← fields? tree
  let required (field : Field) := fields.find? field >>= text?
  let optional (field : Field) := match fields.find? field with
    | none => some none
    | some tree => optionalText? tree
  return {
    id := ← required .id >>= JobId.ofText?
    handlerType := ← required .handlerType
    configuration := ← required .configuration
    tenant := ← optional .tenant
    execution := ← optional .execution
    createdAt := ← required .createdAt >>= Timestamp.read? }

def parse? (text : String) : Option JobRecord :=
  Tree.ofText? text.toList >>= ofTree?

def toObject (record : JobRecord) : Object :=
  let optional : Option String → Json
    | none => .null
    | some text => .string text
  Object.empty
    |>.put .string Field.id.name record.id.text
    |>.put .string Field.handlerType.name record.handlerType
    |>.put .string Field.configuration.name record.configuration
    |>.insert Field.tenant.name (optional record.tenant)
    |>.insert Field.execution.name (optional record.execution)
    |>.put .string Field.createdAt.name (Timestamp.write record.createdAt)

end JobRecord

end DeferredJobs
