import DeferredJobs.Configuration.Error
import DeferredJobs.Query.SortKey
import DeferredJobs.Text.Blank

/-!
# Orderings written as one text

Clauses are separated by commas, and blank ones do not count. A clause is a column and
optionally a direction:

    [FUNCTION(][ALIAS.]COLUMN[)] [asc|desc]

The alias is dropped. The function ends at the first opening parenthesis, and the closing one
must end the column. The first clause that is not of this form is reported, trimmed and
otherwise as written.
-/

namespace DeferredJobs.Query.OrderBy

def clauses (text : List Char) : List (List Char) :=
  ((Text.split (· == ',') text).map Text.trim).filter (!·.isEmpty)

/-- The text before a final closing parenthesis. -/
def beforeClose? (text : List Char) : Option (List Char) :=
  if text.getLast? = some ')' then some text.dropLast else none

/-- The function, if there is one, and what it is applied to. -/
def functionAndColumn? (token : List Char) : Option (Option (List Char) × List Char) :=
  match token.dropWhile (· != '(') with
  | [] => some (none, token)
  | _ :: rest => (beforeClose? rest).map fun column => (some (token.takeWhile (· != '(')), column)

/-- The column without its alias. -/
def columnName? (column : List Char) : Option (List Char) :=
  match Text.split (· == '.') column with
  | [name] | [_, name] => if name.isEmpty then none else some name
  | _ => none

def column? (token : List Char) : Option Column := do
  let (function, column) ← functionAndColumn? token
  let name ← columnName? column
  guard (function.all (!·.isEmpty))
  return ⟨String.ofList name, function.map String.ofList⟩

def clause? (clause : List Char) : Option SortKey :=
  match Text.words clause with
  | [token] => do return ⟨.entity, ← column? token, none, []⟩
  | [token, direction] => do
    let direction ← Direction.ofName? direction
    return ⟨.entity, ← column? token, direction, []⟩
  | _ => none

def parseClause (clause : List Char) : Except ConfigurationError SortKey :=
  match clause? clause with
  | some key => .ok key
  | none => .error (.invalidValue "orderBy" (String.ofList clause))

/-- The sort keys of a text, in order. -/
def parse (text : String) : Except ConfigurationError (List SortKey) :=
  (clauses text.toList).mapM parseClause

end DeferredJobs.Query.OrderBy
