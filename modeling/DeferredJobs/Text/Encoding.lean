/-!
# Texts in bytes

The one encoding of texts is UTF-8. Bytes that encode no text are refused as a whole.
-/

namespace DeferredJobs.Text

/-- The text that bytes encode. -/
def decode? (bytes : List UInt8) : Option (List Char) :=
  (String.fromUTF8? ⟨bytes.toArray⟩).map String.toList

end DeferredJobs.Text
