import DeferredJobs.Configuration.Format

/-!
# Filters on variables

A filter compares a variable of a name with any JSON value. Two flags restrict where the variable is
looked for.
-/

namespace DeferredJobs.Query

inductive Operator where
  | equals | notEquals
  | greaterThan | greaterThanOrEquals | lessThan | lessThanOrEquals
  | like | notLike
  deriving DecidableEq

namespace Operator

def all : List Operator :=
  [equals, notEquals, greaterThan, greaterThanOrEquals, lessThan, lessThanOrEquals, like,
    notLike]

def name : Operator → String
  | equals => "EQUALS"
  | notEquals => "NOT_EQUALS"
  | greaterThan => "GREATER_THAN"
  | greaterThanOrEquals => "GREATER_THAN_OR_EQUALS"
  | lessThan => "LESS_THAN"
  | lessThanOrEquals => "LESS_THAN_OR_EQUALS"
  | like => "LIKE"
  | notLike => "NOT_LIKE"

def ofName? (name : String) : Option Operator :=
  all.find? (·.name == name)

theorem ofName?_name (operator : Operator) : ofName? operator.name = some operator := by
  cases operator <;> rfl

end Operator

structure VariableFilter where
  name : String
  value : Json
  operator : Operator
  taskVariable : Bool
  processVariable : Bool
  deriving DecidableEq

/-- The operator has to be a text before anything else is read, and a known one after the name.
A value that is absent reads as null. -/
def VariableFilter.format : Format VariableFilter where
  write filter :=
    Object.empty
      |>.put .string "name" filter.name
      |>.insert "value" filter.value
      |>.put .string "operator" filter.operator.name
      |>.putFlag "taskVariable" false filter.taskVariable
      |>.putFlag "processVariable" false filter.processVariable
  read o := do
    let operatorName ← o.require .string "operator"
    let name ← o.require .string "name"
    let operator ← match Operator.ofName? operatorName with
      | some operator => .ok operator
      | none => .error (.invalidValue "operator" operatorName)
    let taskVariable ← o.flag "taskVariable" false
    let processVariable ← o.flag "processVariable" false
    return { name, value := (o.find? "value").getD .null, operator, taskVariable, processVariable }

end DeferredJobs.Query
