import DeferredJobs.Configuration.Format
import DeferredJobs.Query.OrderBy

/-!
# The formats of conditions and sort keys

A column and its function stand side by side, the function only where there is a column.
Whatever is absent, and an empty list of conditions, is not written.

The sort keys of a query stand in an array. Where there is none they are read from the older
text, which is never written.
-/

namespace DeferredJobs

open Query

def Object.putColumn (o : Object) (name functionName : String) : Option Column → Object
  | none => o
  | some column => o.put .string name column.name |>.put? .string functionName column.function

/-- A function without a column does not count. -/
def Object.column? (o : Object) (name functionName : String) :
    Except ConfigurationError (Option Column) := do
  match ← o.get? .string name with
  | none => return none
  | some column => return some ⟨column, ← o.get? .string functionName⟩

namespace Query

def Condition.format : Format Condition where
  write condition :=
    Object.empty
      |>.putColumn "baseField" "baseFieldFunction" condition.column
      |>.putColumn "comparisonField" "comparisonFieldFunction" condition.comparison
      |>.put? .string "value" condition.scalar
  read o := do
    let column ← o.column? "baseField" "baseFieldFunction"
    let comparison ← o.column? "comparisonField" "comparisonFieldFunction"
    let scalar ← o.get? .string "value"
    return { column, comparison, scalar }

def readDirection (o : Object) : Except ConfigurationError (Option Direction) := do
  match ← o.get? .string "direction" with
  | none => return none
  | some name =>
    match Direction.ofName? name.toList with
    | some direction => return some direction
    | none => .error (.invalidValue "direction" name)

def readConditions (o : Object) : Except ConfigurationError (List Condition) := do
  match ← o.get? .array "relationProperties" with
  | none => return []
  | some items => Condition.format.readAll "relationProperties" items

namespace SortKey

def format : Format SortKey where
  write key :=
    let o := Object.empty
      |>.put? .string "relation" key.relation.name?
      |>.putColumn "queryProperty" "queryPropertyFunction" key.column
      |>.put? .string "direction" (key.direction.map (·.name))
    if key.conditions.isEmpty then o
    else o.put .array "relationProperties" (Condition.format.writeAll key.conditions)
  read o := do
    let relation ← o.get? .string "relation"
    let column ← o.column? "queryProperty" "queryPropertyFunction"
    let direction ← readDirection o
    let conditions ← readConditions o
    return { relation := Relation.ofName? relation, column, direction, conditions }

/-- Writes the sort keys of a query to its object. -/
def putList (o : Object) (keys : List SortKey) : Object :=
  if keys.isEmpty then o else o.put .array "orderingProperties" (format.writeAll keys)

/-- Reads the sort keys of a query from its object. -/
def readList (o : Object) : Except ConfigurationError (List SortKey) := do
  match ← o.get? .array "orderingProperties" with
  | some items => format.readAll "orderingProperties" items
  | none =>
    match ← o.get? .string "orderBy" with
    | some text => OrderBy.parse text
    | none => return []

def listFormat : Format (List SortKey) where
  write := putList .empty
  read := readList

end SortKey

end Query

end DeferredJobs
