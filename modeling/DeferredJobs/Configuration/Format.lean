import DeferredJobs.Configuration.Field
import DeferredJobs.Json.Bytes
import DeferredJobs.Json.Printer

/-!
# Formats: typed values as objects and as text

A `Format` writes values of a type to objects and reads them back. `parse` reads from a text and
`canonical` writes one in a layout. `writeAll` and `readAll` lift a format to arrays, where the
first faulty element is reported.
-/

namespace DeferredJobs

/-- The object that a value is; any other value is told by its kind. -/
def Json.asObject (value : Json) : Except ConfigurationError Object :=
  match value.toObject? with
  | some o => .ok o
  | none => .error (.notObject value.kind)

/-- Reads a text that must hold an object. -/
def Object.parse (text : String) : Except ConfigurationError Object :=
  match Json.ofText? text.toList with
  | none => .error .notJson
  | some value => value.asObject

/-- Reads bytes that must hold an object. -/
def Object.parseBytes (bytes : ByteArray) : Except ConfigurationError Object :=
  match Json.ofBytes? bytes.data.toList with
  | none => .error .notJson
  | some value => value.asObject

def Object.text (o : Object) (layout : Layout) : String :=
  o.toJson.text layout

def Object.bytes (o : Object) (layout : Layout) : ByteArray :=
  (o.text layout).toUTF8

structure Format (α : Type) where
  write : α → Object
  read : Object → Except ConfigurationError α

namespace Format

variable {α : Type}

def canonical (format : Format α) (layout : Layout) (value : α) : String :=
  (format.write value).text layout

def parse (format : Format α) (text : String) : Except ConfigurationError α := do
  format.read (← Object.parse text)

def writeAll (format : Format α) (values : List α) : List Json :=
  values.map fun value => (format.write value).toJson

/-- Reads the elements of an array; `field` names the array in messages. -/
def readAll (format : Format α) (field : String) (items : List Json) :
    Except ConfigurationError (List α) :=
  let readItem (index : Nat) (item : Json) : Except ConfigurationError α := do
    format.read (← FieldType.object.readAs (elementName field index) item)
  readItems readItem 0 items

end Format

end DeferredJobs
