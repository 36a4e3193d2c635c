import DeferredJobs.Text.Case

/-!
# Sort keys

A persisted query is sorted by a list of keys. A key names a column, a direction and the
relation that the column belongs to: the queried entity itself, the variables of an entity, or
another relation. Conditions pick the rows of the relation.
-/

namespace DeferredJobs.Query

/-- A column, possibly under a function. -/
structure Column where
  name : String
  function : Option String
  deriving DecidableEq

inductive Direction where
  | ascending
  | descending
  deriving DecidableEq

namespace Direction

def name : Direction → String
  | ascending => "asc"
  | descending => "desc"

/-- A direction by its name, in either case. -/
def ofName? (name : List Char) : Option Direction :=
  if Text.equalIgnoringCase name ascending.name.toList then some ascending
  else if Text.equalIgnoringCase name descending.name.toList then some descending
  else none

end Direction

/-- Compares a column with another column or with a text. -/
structure Condition where
  column : Option Column
  comparison : Option Column
  scalar : Option String
  deriving DecidableEq

namespace Condition

def columns (column comparison : Column) : Condition :=
  ⟨some column, some comparison, none⟩

def value (column : Column) (text : String) : Condition :=
  ⟨some column, none, some text⟩

def comparesColumns (condition : Condition) : Bool :=
  condition.comparison.isSome

end Condition

/-- The name of the relation that holds the variables of an entity. -/
def variableRelation : String := "variable"

/-- What a sort column belongs to. -/
inductive Relation where
  /-- The queried entity. -/
  | entity
  | variableValues
  | other (name : String) (different : name ≠ variableRelation)
  deriving DecidableEq

namespace Relation

def ofName? : Option String → Relation
  | none => .entity
  | some name => if h : name = variableRelation then .variableValues else .other name h

def name? : Relation → Option String
  | .entity => none
  | .variableValues => some variableRelation
  | .other name _ => some name

theorem name?_ofName? (name : Option String) : (ofName? name).name? = name := by
  cases name with
  | none => rfl
  | some name =>
    by_cases h : name = variableRelation
    · subst h; rfl
    · simp [ofName?, h, name?]

theorem ofName?_name? (relation : Relation) : ofName? relation.name? = relation := by
  cases relation with
  | entity => rfl
  | variableValues => rfl
  | other name different => simp [name?, ofName?, different]

end Relation

structure SortKey where
  relation : Relation
  column : Option Column
  direction : Option Direction
  conditions : List Condition
  deriving DecidableEq

namespace SortKey

/-- Sorts by a column of the queried entity. -/
def ofColumn (column : Column) (direction : Direction) : SortKey :=
  ⟨.entity, some column, some direction, []⟩

def isVariable (key : SortKey) : Bool :=
  key.relation = .variableValues

end SortKey

end DeferredJobs.Query
