import DeferredJobs.Proofs.Configuration.Format
import DeferredJobs.Query.Format
import DeferredJobs.Query.VariableOrder

/-!
# Sort keys are read back

Conditions and sort keys are read back from the objects they are written to, whichever of their
parts are there. That a key sorts by a variable is not written as such: it is told from the name
of the relation.

* `Object.column?_of_find?`, `readDirection_of_find?`, `readConditions_of_find?`: each part is read
  as soon as what is found under its names is known.
* `Condition.read_write`, `SortKey.read_write`: nothing is lost.
-/

namespace DeferredJobs

open Object

/-! ## Columns -/

theorem Object.putColumn_eq (o : Object) (name functionName : String)
    (column : Option Query.Column) :
    o.putColumn name functionName column =
      (o.put? .string name (column.map (·.name))).put? .string functionName
        (column.bind (·.function)) := by
  cases column <;> rfl

@[simp] theorem Object.find?_putColumn (o : Object) (name functionName other : String)
    (column : Option Query.Column) :
    (o.putColumn name functionName column).find? other =
      if other = functionName then
        ((column.bind (·.function)).map FieldType.string.write).or
          ((o.put? .string name (column.map (·.name))).find? other)
      else (o.put? .string name (column.map (·.name))).find? other := by
  rw [putColumn_eq, find?_put?]

theorem Object.column?_of_find? {o : Object} {name functionName : String}
    {column : Option Query.Column}
    (hName : o.find? name = (column.map (·.name)).map FieldType.string.write)
    (hFunction : o.find? functionName = (column.bind (·.function)).map FieldType.string.write) :
    o.column? name functionName = .ok column := by
  have hReadName : o.get? .string name = .ok (column.map (·.name)) := get?_of_find? hName
  have hReadFunction : o.get? .string functionName = .ok (column.bind (·.function)) :=
    get?_of_find? hFunction
  cases column with
  | none => simp only [column?, hReadName, ok_bind, Option.map_none]; rfl
  | some column =>
    simp only [column?, hReadName, hReadFunction, ok_bind, Option.map_some, Option.bind_some]
    rfl

namespace Query

/-! ## Conditions -/

theorem Condition.read_write (condition : Condition) :
    Condition.format.read (Condition.format.write condition) = .ok condition := by
  have hColumn : (Condition.format.write condition).column? "baseField" "baseFieldFunction" =
      .ok condition.column :=
    column?_of_find? (by simp [Condition.format]) (by simp [Condition.format])
  have hComparison : (Condition.format.write condition).column? "comparisonField"
      "comparisonFieldFunction" = .ok condition.comparison :=
    column?_of_find? (by simp [Condition.format]) (by simp [Condition.format])
  have hScalar : (Condition.format.write condition).get? .string "value" = .ok condition.scalar :=
    get?_of_find? (by simp [Condition.format])
  generalize Condition.format.write condition = o at hColumn hComparison hScalar ⊢
  simp only [Condition.format, hColumn, hComparison, hScalar, ok_bind]
  rfl

/-! ## Sort keys -/

theorem Direction.ofName?_name (direction : Direction) :
    Direction.ofName? direction.name.toList = some direction := by
  cases direction <;> rfl

theorem readDirection_of_find? {o : Object} {direction : Option Direction}
    (h : o.find? "direction" = (direction.map (·.name)).map FieldType.string.write) :
    readDirection o = .ok direction := by
  have hRead : o.get? .string "direction" = .ok (direction.map (·.name)) := get?_of_find? h
  cases direction with
  | none => simp only [readDirection, hRead, ok_bind, Option.map_none]; rfl
  | some direction =>
    simp only [readDirection, hRead, ok_bind, Option.map_some, Direction.ofName?_name]
    rfl

/-- An empty list of conditions is not written. -/
def conditionsValue? (conditions : List Condition) : Option Json :=
  if conditions.isEmpty then none else some (.array (Condition.format.writeAll conditions))

theorem readConditions_of_find? {o : Object} {conditions : List Condition}
    (h : o.find? "relationProperties" = conditionsValue? conditions) :
    readConditions o = .ok conditions := by
  cases conditions with
  | nil =>
    have hAbsent : o.get? .array "relationProperties" = .ok none := get?_of_find? h
    simp only [readConditions, hAbsent, ok_bind]
    rfl
  | cons condition rest =>
    have hArray : o.get? .array "relationProperties" =
        .ok (some (Condition.format.writeAll (condition :: rest))) := get?_of_find? h
    simp only [readConditions, hArray, ok_bind]
    exact Format.readAll_writeAll Condition.read_write _ _

namespace SortKey

theorem find?_write (key : SortKey) (name : String) :
    (format.write key).find? name =
      if name = "relationProperties" then conditionsValue? key.conditions
      else (((Object.empty.put? .string "relation" key.relation.name?).putColumn
        "queryProperty" "queryPropertyFunction" key.column).put? .string "direction"
          (key.direction.map (·.name))).find? name := by
  by_cases hEmpty : key.conditions.isEmpty
  · rw [conditionsValue?, if_pos hEmpty]
    simp only [format, if_pos hEmpty]
    split
    · subst name; simp
    · rfl
  · rw [conditionsValue?, if_neg hEmpty]
    simp only [format, if_neg hEmpty]
    exact Object.find?_put _ _ _ _ _

theorem read_write (key : SortKey) : format.read (format.write key) = .ok key := by
  have hRelation : (format.write key).get? .string "relation" = .ok key.relation.name? :=
    get?_of_find? (by simp [find?_write])
  have hColumn : (format.write key).column? "queryProperty" "queryPropertyFunction" =
      .ok key.column := column?_of_find? (by simp [find?_write]) (by simp [find?_write])
  have hDirection : readDirection (format.write key) = .ok key.direction :=
    readDirection_of_find? (by simp [find?_write])
  have hConditions : readConditions (format.write key) = .ok key.conditions :=
    readConditions_of_find? (by simp [find?_write])
  generalize format.write key = o at hRelation hColumn hDirection hConditions ⊢
  simp only [format, hRelation, hColumn, hDirection, hConditions, ok_bind,
    Relation.ofName?_name?]
  rfl

end SortKey

end Query

end DeferredJobs
