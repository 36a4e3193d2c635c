import DeferredJobs.Query.SortKey

/-!
# Sorting by the value of a variable

The value of a variable is stored in a column that depends on its type. The sort key picks the
variable by name and type, and a scope adds the condition that joins the variable to the sorted
task.
-/

namespace DeferredJobs.Query

inductive VariableType where
  | string | integer | long | short | double | boolean | date
  deriving DecidableEq

namespace VariableType

def all : List VariableType :=
  [string, integer, long, short, double, boolean, date]

def name : VariableType → String
  | string => "string"
  | integer => "integer"
  | long => "long"
  | short => "short"
  | double => "double"
  | boolean => "boolean"
  | date => "date"

def ofName? (name : String) : Option VariableType :=
  all.find? (·.name == name)

/-- Where values are stored; texts are compared in small letters. -/
def column : VariableType → Column
  | string => ⟨"TEXT_", some "LOWER"⟩
  | double => ⟨"DOUBLE_", none⟩
  | integer | long | short | boolean | date => ⟨"LONG_", none⟩

end VariableType

/-- Whose variables are meant, as seen from a task. -/
inductive VariableScope where
  | processInstance | execution | task | caseInstance | caseExecution
  deriving DecidableEq

/-- The column of the variable and the column of the task that must agree. -/
def VariableScope.join : VariableScope → Condition
  | processInstance => .columns ⟨"EXECUTION_ID_", none⟩ ⟨"PROC_INST_ID_", none⟩
  | execution => .columns ⟨"EXECUTION_ID_", none⟩ ⟨"EXECUTION_ID_", none⟩
  | task => .columns ⟨"TASK_ID_", none⟩ ⟨"ID_", none⟩
  | caseInstance => .columns ⟨"CASE_INST_ID_", none⟩ ⟨"CASE_INST_ID_", none⟩
  | caseExecution => .columns ⟨"CASE_EXECUTION_ID_", none⟩ ⟨"CASE_EXECUTION_ID_", none⟩

/-- Sorts by the variable of a name and a type, in a scope or wherever it is. -/
def SortKey.byVariable (scope : Option VariableScope) (name : String) (type : VariableType)
    (direction : Option Direction) : SortKey where
  relation := .variableValues
  column := some type.column
  direction := direction
  conditions :=
    [.value ⟨"NAME_", none⟩ name, .value ⟨"TYPE_", none⟩ type.name] ++ (scope.map (·.join)).toList

end DeferredJobs.Query
