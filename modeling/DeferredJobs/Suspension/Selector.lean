import DeferredJobs.Configuration.Field

/-!
# Selectors

The configuration of a state change has several fields that can name its target, and a selector
that tells which one counts. On the wire a selector is the name of that field. Any other name is
kept as it is and only refused when the target is looked up.
-/

namespace DeferredJobs

inductive Selector where
  | jobDefinitionId
  | processDefinitionId
  | processDefinitionKey
  | unrecognized (name : String)
  deriving DecidableEq

namespace Selector

def name : Selector → String
  | jobDefinitionId => "jobDefinitionId"
  | processDefinitionId => "processDefinitionId"
  | processDefinitionKey => "processDefinitionKey"
  | unrecognized name => name

def ofName (name : String) : Selector :=
  if name = jobDefinitionId.name then jobDefinitionId
  else if name = processDefinitionId.name then processDefinitionId
  else if name = processDefinitionKey.name then processDefinitionKey
  else unrecognized name

theorem name_ofName (name : String) : (ofName name).name = name := by
  unfold ofName
  split
  · exact Eq.symm ‹_›
  · split
    · exact Eq.symm ‹_›
    · split
      · exact Eq.symm ‹_›
      · rfl

/-- The value of the field that a selector points at. -/
def value (selector : Selector) (field : Option String) : Except ConfigurationError String :=
  match field with
  | some value => .ok value
  | none => .error (.missingField selector.name)

def refuse (selector : Selector) : ConfigurationError :=
  .unknownSelector selector.name

end Selector

end DeferredJobs
