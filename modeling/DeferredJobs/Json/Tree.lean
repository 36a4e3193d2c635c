import DeferredJobs.Json.Token

/-!
# The tree of a text

A tree keeps what a text says before any of it is interpreted: literals as they are written,
members in their order with repeated names. Tokens are read by a machine with a stack of open
containers, so trees nest to any depth. `Tree.value?` then interprets a tree: the last of equal
names wins, and a number that is too large or a string with half of a surrogate pair has no
value.
-/

namespace DeferredJobs

inductive Tree where
  | null
  | bool (value : Bool)
  | number (literal : NumberLiteral)
  | string (text : Option String)
  | array (items : List Tree)
  | object (members : List (Option String × Tree))
  deriving Inhabited

/-- A container that is still open, with what it holds so far, last first. In an object the name
of the member being read stands apart. -/
inductive Tree.Frame where
  | array (items : List Tree)
  | object (members : List (Option String × Tree)) (name : Option String)

/-- What the tokens read so far amount to, and hence what may come next. -/
inductive Tree.State where
  /-- A value must follow. -/
  | value (frames : List Frame)
  /-- The first item of an array, or its end. -/
  | firstItem (frames : List Frame)
  /-- The first name of an object, or its end. -/
  | firstName (frames : List Frame)
  /-- A further name of an object. -/
  | nextName (members : List (Option String × Tree)) (frames : List Frame)
  /-- The colon after a name. -/
  | colon (frames : List Frame) (members : List (Option String × Tree)) (name : Option String)
  /-- A value is complete: the end of a container, a comma, or the end of the text. -/
  | complete (tree : Tree) (frames : List Frame)

namespace Tree

def scalar? : Token → Option Tree
  | .null => some .null
  | .bool value => some (.bool value)
  | .number literal => some (.number literal)
  | .string text => some (.string text)
  | _ => none

/-- A token where a value is due. -/
def State.begin? (frames : List Frame) : Token → Option State
  | .openArray => some (.firstItem frames)
  | .openObject => some (.firstName frames)
  | token => (scalar? token).map (.complete · frames)

def State.step? : State → Token → Option State
  | .value frames, token => begin? frames token
  | .firstItem frames, .closeArray => some (.complete (.array []) frames)
  | .firstItem frames, token => begin? (.array [] :: frames) token
  | .firstName frames, .closeObject => some (.complete (.object []) frames)
  | .firstName frames, .string name => some (.colon frames [] name)
  | .nextName members frames, .string name => some (.colon frames members name)
  | .colon frames members name, .colon => some (.value (.object members name :: frames))
  | .complete tree (.array items :: frames), .comma =>
    some (.value (.array (tree :: items) :: frames))
  | .complete tree (.array items :: frames), .closeArray =>
    some (.complete (.array (tree :: items).reverse) frames)
  | .complete tree (.object members name :: frames), .comma =>
    some (.nextName ((name, tree) :: members) frames)
  | .complete tree (.object members name :: frames), .closeObject =>
    some (.complete (.object ((name, tree) :: members).reverse) frames)
  | _, _ => none

def State.run? (state : State) : List Token → Option State
  | [] => some state
  | token :: rest =>
    match state.step? token with
    | none => none
    | some next => next.run? rest

def ofTokens? (tokens : List Token) : Option Tree :=
  match State.run? (.value []) tokens with
  | some (.complete tree []) => some tree
  | _ => none

/-- The tree of a text; none if the text breaks the grammar. -/
def ofText? (text : List Char) : Option Tree :=
  (Token.ofText? text).bind ofTokens?

mutual

/-- How deep the containers of a tree nest. -/
def depth : Tree → Nat
  | .null | .bool _ | .number _ | .string _ => 0
  | .array items => depthItems items + 1
  | .object members => depthMembers members + 1

def depthItems : List Tree → Nat
  | [] => 0
  | item :: rest => max item.depth (depthItems rest)

def depthMembers : List (Option String × Tree) → Nat
  | [] => 0
  | (_, value) :: rest => max value.depth (depthMembers rest)

end

mutual

/-- What a tree denotes, if all its literals denote something. -/
def value? : Tree → Option Json
  | .null => some .null
  | .bool value => some (.bool value)
  | .number literal => literal.value?
  | .string text => text.map .string
  | .array items => (valueItems? items).map .array
  | .object members => (valueMembers? members).map fun members => .object (Entries.ofList members)

def valueItems? : List Tree → Option (List Json)
  | [] => some []
  | item :: rest => do return (← item.value?) :: (← valueItems? rest)

def valueMembers? : List (Option String × Tree) → Option (List (String × Json))
  | [] => some []
  | (name, value) :: rest => do return (← name, ← value.value?) :: (← valueMembers? rest)

end

end Tree

/-- How deep a text may nest its containers. -/
def Json.maxDepth : Nat := 127

/-- Reads a text strictly; none if it is not JSON, nests deeper than `maxDepth`, or holds a literal
without a value. -/
def Json.ofText? (text : List Char) : Option Json := do
  let tree ← Tree.ofText? text
  guard (tree.depth ≤ Json.maxDepth)
  tree.value?

end DeferredJobs
