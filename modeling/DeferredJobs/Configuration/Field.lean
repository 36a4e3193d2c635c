import DeferredJobs.Configuration.Error

/-!
# Typed fields of an object

A `FieldType` says how values of a type are written as JSON and which JSON values they are read
from; what is written is read back, and null is a value of none of them.

`require` refuses an absent field, and null as it would any other value of a wrong type. `get?`
reads null and an absent field alike as nothing, and `flag` reads them as the default. On the
writing side `put?` leaves out nothing and `putFlag` leaves out the default, so neither ever
writes null.
-/

namespace DeferredJobs

structure FieldType (α : Type) where
  shape : Shape
  write : α → Json
  read? : Json → Option α
  read_write : ∀ a, read? (write a) = some a
  read_null : read? .null = none

namespace FieldType

def string : FieldType String where
  shape := .string
  write := .string
  read? | .string s => some s | _ => none
  read_write _ := rfl
  read_null := rfl

def boolean : FieldType Bool where
  shape := .boolean
  write := .bool
  read? | .bool b => some b | _ => none
  read_write _ := rfl
  read_null := rfl

/-- Integers from -2^31 to 2^31-1. A double is none of them, whatever its value. -/
def int32 : FieldType Int32 where
  shape := .integer32
  write n := .int (Integer.ofInt32 n)
  read? | .int n => n.toInt32? | _ => none
  read_write := Integer.toInt32?_ofInt32
  read_null := rfl

/-- Integers from 0 to 2^32-1. -/
def uint32 : FieldType UInt32 where
  shape := .natural
  write n := .int (Integer.ofUInt32 n)
  read? | .int n => n.toUInt32? | _ => none
  read_write := Integer.toUInt32?_ofUInt32
  read_null := rfl

def object : FieldType Object where
  shape := .object
  write := Object.toJson
  read? := Json.toObject?
  read_write _ := rfl
  read_null := rfl

def array : FieldType (List Json) where
  shape := .array
  write := .array
  read? | .array items => some items | _ => none
  read_write _ := rfl
  read_null := rfl

end FieldType

variable {α β : Type}

/-- The value of a field that holds something. -/
def FieldType.readAs (type : FieldType α) (field : String) (value : Json) :
    Except ConfigurationError α :=
  match type.read? value with
  | some a => .ok a
  | none => .error (.wrongType field type.shape)

/-- How messages name an element of a list. -/
def elementName (field : String) (index : Nat) : String :=
  field ++ "[" ++ toString index ++ "]"

/-- Reads the items of a list in order; the first fault ends the reading. -/
def readItems (read : Nat → Json → Except ConfigurationError α) (start : Nat) :
    List Json → Except ConfigurationError (List α)
  | [] => .ok []
  | item :: rest =>
    match read start item with
    | .error e => .error e
    | .ok a =>
      match readItems read (start + 1) rest with
      | .error e => .error e
      | .ok rest => .ok (a :: rest)

namespace Object

/-! ## Reading -/

def require (o : Object) (type : FieldType α) (name : String) : Except ConfigurationError α :=
  match o.find? name with
  | none => .error (.missingField name)
  | some value => type.readAs name value

def get? (o : Object) (type : FieldType α) (name : String) : Except ConfigurationError (Option α) :=
  match o.find? name with
  | none | some .null => .ok none
  | some value => (type.readAs name value).map some

def flag (o : Object) (name : String) (default : Bool) : Except ConfigurationError Bool :=
  (o.get? .boolean name).map (·.getD default)

def requireStrings (o : Object) (name : String) : Except ConfigurationError (List String) := do
  let items ← o.require .array name
  readItems (fun index => FieldType.string.readAs (elementName name index)) 0 items

/-! ## Writing -/

def put (o : Object) (type : FieldType α) (name : String) (value : α) : Object :=
  o.insert name (type.write value)

def put? (o : Object) (type : FieldType α) (name : String) : Option α → Object
  | none => o
  | some value => o.put type name value

/-- Writes a flag only where it differs from its default. -/
def putFlag (o : Object) (name : String) (default value : Bool) : Object :=
  if value = default then o else o.put .boolean name value

def putStrings (o : Object) (name : String) (values : List String) : Object :=
  o.insert name (.array (values.map .string))

theorem require_put (o : Object) (type : FieldType α) (name : String) (value : α) :
    (o.put type name value).require type name = .ok value := by
  simp [require, put, find?_insert, FieldType.readAs, type.read_write]

theorem get?_put (o : Object) (type : FieldType α) (name : String) (value : α) :
    (o.put type name value).get? type name = .ok (some value) := by
  have h := type.read_write value
  have hn := type.read_null
  simp only [get?, put, find?_insert, ite_true]
  split
  · contradiction
  · rename_i null
    rw [Option.some.injEq] at null
    rw [null, hn] at h
    contradiction
  · rename_i found
    rw [Option.some.injEq] at found
    simp [FieldType.readAs, ← found, h, Except.map]

end Object

end DeferredJobs
