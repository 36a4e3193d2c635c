import DeferredJobs.Entries
import DeferredJobs.Decimal.Binary64

/-!
# JSON values

A value as configurations hold it. Integers between -2^63 and 2^64 are kept exactly, every other
number is a double. The members of an object are in ascending order of name, each name once:
that is what reading and `Object.insert` produce, and `Json.Ordered` says it for all levels.

`Json.depth` counts containers: a scalar has depth 0, an empty array depth 1.
-/

namespace DeferredJobs

open Decimal (Binary64)

/-- The integers that are kept exactly. -/
structure Integer where
  value : Int
  low : -0x8000000000000000 ≤ value := by decide
  high : value < 0x10000000000000000 := by decide
  deriving DecidableEq

namespace Integer

def ofInt? (n : Int) : Option Integer :=
  if h : -0x8000000000000000 ≤ n ∧ n < 0x10000000000000000 then some ⟨n, h.1, h.2⟩ else none

def ofInt32 (n : Int32) : Integer :=
  ⟨n.toInt, by have := n.le_toInt; omega, by have := n.toInt_lt; omega⟩

def ofUInt32 (n : UInt32) : Integer :=
  ⟨n.toNat, by omega, by have := n.toNat_lt; omega⟩

def toInt32? (n : Integer) : Option Int32 :=
  if -0x80000000 ≤ n.value ∧ n.value < 0x80000000 then some (Int32.ofInt n.value) else none

def toUInt32? (n : Integer) : Option UInt32 :=
  if 0 ≤ n.value ∧ n.value < 0x100000000 then some (UInt32.ofNat n.value.toNat) else none

theorem toInt32?_ofInt32 (n : Int32) : (ofInt32 n).toInt32? = some n := by
  have low := n.le_toInt
  have high := n.toInt_lt
  simp only [toInt32?, ofInt32, Int32.ofInt_toInt]
  rw [if_pos ⟨by omega, by omega⟩]

theorem toUInt32?_ofUInt32 (n : UInt32) : (ofUInt32 n).toUInt32? = some n := by
  have high := n.toNat_lt
  simp only [toUInt32?, ofUInt32, Int.toNat_natCast, UInt32.ofNat_toNat]
  rw [if_pos ⟨by omega, by omega⟩]

end Integer

inductive Json where
  | null
  | bool (value : Bool)
  | int (value : Integer)
  | double (value : Binary64)
  | string (value : String)
  | array (items : List Json)
  | object (members : List (String × Json))
  deriving Inhabited

namespace Json

/-- What a value is, as far as a message tells. -/
inductive Kind where
  | null | boolean | number | string | array | object
  deriving DecidableEq

def Kind.description : Kind → String
  | .null => "null"
  | .boolean => "a boolean"
  | .number => "a number"
  | .string => "a string"
  | .array => "an array"
  | .object => "an object"

def kind : Json → Kind
  | .null => .null
  | .bool _ => .boolean
  | .int _ | .double _ => .number
  | .string _ => .string
  | .array _ => .array
  | .object _ => .object

mutual

def decideEq : (a b : Json) → Decidable (a = b)
  | .null, b => match b with
    | .null => isTrue rfl
    | .bool _ | .int _ | .double _ | .string _ | .array _ | .object _ => isFalse nofun
  | .bool x, b => match b with
    | .bool y => decidable_of_iff (x = y) (by simp)
    | .null | .int _ | .double _ | .string _ | .array _ | .object _ => isFalse nofun
  | .int x, b => match b with
    | .int y => decidable_of_iff (x = y) (by simp)
    | .null | .bool _ | .double _ | .string _ | .array _ | .object _ => isFalse nofun
  | .double x, b => match b with
    | .double y => decidable_of_iff (x = y) (by simp)
    | .null | .bool _ | .int _ | .string _ | .array _ | .object _ => isFalse nofun
  | .string x, b => match b with
    | .string y => decidable_of_iff (x = y) (by simp)
    | .null | .bool _ | .int _ | .double _ | .array _ | .object _ => isFalse nofun
  | .array x, b => match b with
    | .array y => have := decideEqItems x y; decidable_of_iff (x = y) (by simp)
    | .null | .bool _ | .int _ | .double _ | .string _ | .object _ => isFalse nofun
  | .object x, b => match b with
    | .object y => have := decideEqMembers x y; decidable_of_iff (x = y) (by simp)
    | .null | .bool _ | .int _ | .double _ | .string _ | .array _ => isFalse nofun

def decideEqItems : (a b : List Json) → Decidable (a = b)
  | [], b => match b with
    | [] => isTrue rfl
    | _ :: _ => isFalse nofun
  | x :: xs, b => match b with
    | [] => isFalse nofun
    | y :: ys =>
      have := decideEq x y
      have := decideEqItems xs ys
      decidable_of_iff (x = y ∧ xs = ys) (by simp)

def decideEqMembers : (a b : List (String × Json)) → Decidable (a = b)
  | [], b => match b with
    | [] => isTrue rfl
    | _ :: _ => isFalse nofun
  | (m, x) :: xs, b => match b with
    | [] => isFalse nofun
    | (n, y) :: ys =>
      have := decideEq x y
      have := decideEqMembers xs ys
      decidable_of_iff ((m = n ∧ x = y) ∧ xs = ys) (by simp)

end

instance : DecidableEq Json := decideEq

mutual

/-- How deep the containers of a value nest. -/
def depth : Json → Nat
  | .null | .bool _ | .int _ | .double _ | .string _ => 0
  | .array items => depthItems items + 1
  | .object members => depthMembers members + 1

def depthItems : List Json → Nat
  | [] => 0
  | item :: rest => max item.depth (depthItems rest)

def depthMembers : List (String × Json) → Nat
  | [] => 0
  | (_, value) :: rest => max value.depth (depthMembers rest)

end

mutual

/-- Every object, at every level, has its names strictly ascending. -/
def Ordered : Json → Prop
  | .null | .bool _ | .int _ | .double _ | .string _ => True
  | .array items => OrderedItems items
  | .object members => Entries.Ascending members ∧ OrderedMembers members

def OrderedItems : List Json → Prop
  | [] => True
  | item :: rest => item.Ordered ∧ OrderedItems rest

def OrderedMembers : List (String × Json) → Prop
  | [] => True
  | (_, value) :: rest => value.Ordered ∧ OrderedMembers rest

end

end Json

/-- A JSON object: what configurations are written to and read from. -/
structure Object where
  members : Entries Json
  deriving DecidableEq

namespace Object

def empty : Object := ⟨[]⟩

def toJson (o : Object) : Json :=
  .object o.members

def find? (o : Object) (name : String) : Option Json :=
  o.members.find? name

def contains (o : Object) (name : String) : Bool :=
  o.members.contains name

def names (o : Object) : List String :=
  o.members.names

def insert (o : Object) (name : String) (value : Json) : Object :=
  ⟨o.members.insert name value⟩

@[simp] theorem find?_empty (name : String) : empty.find? name = none := rfl

theorem find?_insert (o : Object) (name other : String) (value : Json) :
    (o.insert name value).find? other = if other = name then some value else o.find? other :=
  Entries.find?_insert o.members name other value

end Object

def Json.toObject? : Json → Option Object
  | .object members => some ⟨members⟩
  | _ => none

end DeferredJobs
