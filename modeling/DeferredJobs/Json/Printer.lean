import DeferredJobs.Json.Token

/-!
# The text of a JSON value

A value is written compactly, without any blanks, or indented: every item and member on its own
line, two spaces deeper than its container, with a blank after the colon. Empty containers stay
on one line in both layouts, and no line break ends the text.
-/

namespace DeferredJobs

inductive Layout where
  | compact
  | indented
  deriving DecidableEq

namespace Layout

def ofPretty (pretty : Bool) : Layout :=
  if pretty then .indented else .compact

def isPretty : Layout → Bool
  | .compact => false
  | .indented => true

/-- What separates an item from what stands before it. -/
def lineBreak : Layout → Nat → List Char
  | .compact, _ => []
  | .indented, level => '\n' :: List.replicate (2 * level) ' '

def afterColon : Layout → List Char
  | .compact => []
  | .indented => [' ']

end Layout

namespace Json

def writeString (text : String) : List Char :=
  '"' :: Quoted.encode text.toList ++ ['"']

mutual

/-- The text of a value whose container is indented by `level`. -/
def write (layout : Layout) (level : Nat) : Json → List Char
  | .null => ['n', 'u', 'l', 'l']
  | .bool true => ['t', 'r', 'u', 'e']
  | .bool false => ['f', 'a', 'l', 's', 'e']
  | .int n => (NumberLiteral.ofInteger n).text
  | .double x => (NumberLiteral.ofDouble x).text
  | .string text => writeString text
  | .array items => '[' :: writeItems layout level true items ++ [']']
  | .object members => '\x7b' :: writeMembers layout level true members ++ ['\x7d']

/-- The items of an array and the line break that ends them; the first is not led by a comma. -/
def writeItems (layout : Layout) (level : Nat) (isFirst : Bool) : List Json → List Char
  | [] => if isFirst then [] else layout.lineBreak level
  | item :: rest =>
    (if isFirst then [] else [',']) ++ layout.lineBreak (level + 1) ++
      item.write layout (level + 1) ++ writeItems layout level false rest

def writeMembers (layout : Layout) (level : Nat) (isFirst : Bool) : List (String × Json) → List Char
  | [] => if isFirst then [] else layout.lineBreak level
  | (name, value) :: rest =>
    (if isFirst then [] else [',']) ++ layout.lineBreak (level + 1) ++
      writeString name ++ ':' :: layout.afterColon ++ value.write layout (level + 1) ++
      writeMembers layout level false rest

end

def text (value : Json) (layout : Layout) : String :=
  String.ofList (value.write layout 0)

end Json

end DeferredJobs
