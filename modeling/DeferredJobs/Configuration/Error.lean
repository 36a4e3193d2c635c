import DeferredJobs.Json.Basic

/-!
# What can be wrong with a configuration

Each cause is a constructor; `ConfigurationError.message` words it. Causes that lie in the shape
of the text are *malformed*; a selector or an instruction that nobody knows is not.
-/

namespace DeferredJobs

/-- What a field has to hold. -/
inductive Shape where
  | string | boolean | integer | integer32 | natural | object | array | stringOrNull
  deriving DecidableEq

def Shape.description : Shape → String
  | .string => "a string"
  | .boolean => "a boolean"
  | .integer => "an integer"
  | .integer32 => "a 32-bit integer"
  | .natural => "a non-negative integer"
  | .object => "an object"
  | .array => "an array"
  | .stringOrNull => "a string or null"

inductive ConfigurationError where
  | missingField (name : String)
  | wrongType (field : String) (expected : Shape)
  | invalidValue (field : String) (value : String)
  /-- The text is no JSON value. -/
  | notJson
  /-- The text is JSON, but not an object. -/
  | notObject (found : Json.Kind)
  /-- A text in a format of its own was refused for this reason. -/
  | unreadable (reason : String)
  | unknownSelector (selector : String)
  /-- A modification instruction without any of the names that tell what it does. -/
  | unrecognizedInstruction (names : List String)
  deriving DecidableEq

namespace ConfigurationError

def malformed (reason : String) : String :=
  "malformed configuration: " ++ reason

/-- A text that is not JSON is reported by a mark in the place of a reason. -/
def message : ConfigurationError → String
  | missingField name => malformed ("missing required field `" ++ name ++ "`")
  | wrongType field expected =>
    malformed ("field `" ++ field ++ "` is not " ++ expected.description)
  | invalidValue field value =>
    malformed ("field `" ++ field ++ "` has invalid value `" ++ value ++ "`")
  | notJson => malformed "<syntax>"
  | notObject found => malformed ("expected a JSON object, found " ++ found.description)
  | unreadable reason => malformed reason
  | unknownSelector selector =>
    "unexpected job handler configuration for property `by`: " ++ selector
  | unrecognizedInstruction names =>
    "unrecognized modification instruction with keys [" ++ String.intercalate ", " names ++ "]"

def isMalformed : ConfigurationError → Bool
  | missingField _ | wrongType _ _ | invalidValue _ _ | notJson | notObject _ | unreadable _ => true
  | unknownSelector _ | unrecognizedInstruction _ => false

end ConfigurationError

end DeferredJobs
