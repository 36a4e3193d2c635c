import DeferredJobs.Json.Printer
import DeferredJobs.Text.Printable

/-!
# Pictures of values

A picture shows the structure of a value to a reader: records and tuples with their names,
lists, texts in quotes, and single words. It is laid out on one line, or indented with every
part on its own line and a comma after it. A record may show only some of its fields; two dots
stand for the others.
-/

namespace DeferredJobs

inductive Picture where
  | word (text : String)
  | quoted (text : String)
  | list (items : List Picture)
  | tuple (name : String) (parts : List Picture)
  | record (name : String) (fields : List (String × Picture)) (hasMore : Bool)

namespace Picture

/-- A number in hexadecimal, without leading zeros. -/
def hexadecimal (n : Nat) : List Char :=
  if n < 16 then [Quoted.hexDigit n] else hexadecimal (n / 16) ++ [Quoted.hexDigit (n % 16)]
termination_by n
decreasing_by omega

def escape (c : Char) : List Char :=
  match c with
  | '"' => ['\\', '"']
  | '\\' => ['\\', '\\']
  | '\n' => ['\\', 'n']
  | '\r' => ['\\', 'r']
  | '\t' => ['\\', 't']
  | '\x00' => ['\\', '0']
  | c =>
    if Text.isPrintable c then [c]
    else '\\' :: 'u' :: '\x7b' :: hexadecimal c.toNat ++ ['\x7d']

def quote (text : String) : List Char :=
  '"' :: text.toList.flatMap escape ++ ['"']

def lineBreak (level : Nat) : List Char :=
  '\n' :: List.replicate (4 * level) ' '

/-- Parts between brackets. On one line they are set off by commas, and from braces by blanks. -/
def bracketed (layout : Layout) (level : Nat) (first last : Char) (spaced : Bool)
    (parts : List (List Char)) (hasMore : Bool) : List Char :=
  match layout with
  | .compact =>
    let space := if spaced then [' '] else []
    let parts := if hasMore then parts ++ [['.', '.']] else parts
    first :: space ++ List.intercalate [',', ' '] parts ++ space ++ [last]
  | .indented =>
    first :: parts.flatMap (fun part => lineBreak (level + 1) ++ part ++ [',']) ++
      (if hasMore then lineBreak (level + 1) ++ ['.', '.'] else []) ++ lineBreak level ++ [last]

mutual

def write (layout : Layout) (level : Nat) : Picture → List Char
  | word text => text.toList
  | quoted text => quote text
  | list [] => ['[', ']']
  | list (item :: items) =>
    let parts := item.write layout (level + 1) :: writeAll layout (level + 1) items
    bracketed layout level '[' ']' false parts false
  | tuple name parts =>
    name.toList ++ bracketed layout level '(' ')' false (writeAll layout (level + 1) parts) false
  | record name fields hasMore =>
    let parts := writeFields layout (level + 1) fields
    name.toList ++ ' ' :: bracketed layout level '\x7b' '\x7d' true parts hasMore

def writeAll (layout : Layout) (level : Nat) : List Picture → List (List Char)
  | [] => []
  | item :: items => item.write layout level :: writeAll layout level items

def writeFields (layout : Layout) (level : Nat) : List (String × Picture) → List (List Char)
  | [] => []
  | (name, value) :: fields =>
    (name.toList ++ ':' :: ' ' :: value.write layout level) :: writeFields layout level fields

end

def text (picture : Picture) (layout : Layout) : String :=
  String.ofList (picture.write layout 0)

/-! ## Pictures of plain values -/

def ofBool (value : Bool) : Picture :=
  word (if value then "true" else "false")

def ofInt (n : Int) : Picture :=
  word (toString n)

def ofStrings (values : List String) : Picture :=
  list (values.map quoted)

def ofOption (value : Option String) : Picture :=
  match value with
  | none => word "None"
  | some text => tuple "Some" [quoted text]

end Picture

end DeferredJobs
