/-!
# Comparison without regard to case

Only the letters A to Z have a case here. That is the rule wherever a keyword of the wire format may
be written in either case.
-/

namespace DeferredJobs.Text

/-- Equality up to the case of the letters A to Z. -/
def equalIgnoringCase (a b : List Char) : Bool :=
  a.map Char.toLower == b.map Char.toLower

theorem equalIgnoringCase_iff {a b : List Char} :
    equalIgnoringCase a b = true ↔ a.map Char.toLower = b.map Char.toLower := by
  simp [equalIgnoringCase]

end DeferredJobs.Text
