import DeferredJobs.Json.Quoted
import DeferredJobs.Text.Case

/-!
# Job ids

A job has an id of 128 bits. It is written as 32 small hexadecimal digits in five groups.
Reading takes the digits in either case, grouped or not, and a grouped id also in braces or
as a URN: after `urn:uuid:`, whose letters may be in either case too.
-/

namespace DeferredJobs

structure JobId where
  value : BitVec 128
  deriving DecidableEq

namespace JobId

/-- The id that hexadecimal digits spell; there must be 32 of them. -/
def ofDigits? (digits : List Char) : Option JobId := do
  guard (digits.length = 32)
  let values ← digits.mapM Quoted.hexValue?
  return ⟨BitVec.ofNat 128 (values.foldl (fun n d => 16 * n + d) 0)⟩

/-- Groups of 8, 4, 4, 4 and 12 digits with hyphens between them. -/
def ofGroups? (text : List Char) : Option JobId := do
  guard (text.length = 36)
  guard ([8, 13, 18, 23].all fun place => text[place]? == some '-')
  ofDigits? (text.filter (· != '-'))

/-- The text between braces. -/
def betweenBraces? (text : List Char) : Option (List Char) := do
  guard (text.head? = some '\x7b')
  let text := text.tail
  guard (text.getLast? = some '\x7d')
  return text.dropLast

/-- What marks an id that is written as a URN. -/
def urnStart : List Char := "urn:uuid:".toList

/-- What follows `urn:uuid:`, in either case. -/
def afterUrnStart? (text : List Char) : Option (List Char) := do
  guard (Text.equalIgnoringCase (text.take urnStart.length) urnStart)
  return text.drop urnStart.length

def ofText? (text : String) : Option JobId :=
  let text := text.toList
  ofDigits? text <|> ofGroups? text <|> (betweenBraces? text >>= ofGroups?) <|>
    (afterUrnStart? text >>= ofGroups?)

/-- The 32 hexadecimal digits, the most significant first. -/
def digits (id : JobId) : List Char :=
  (List.range 32).map fun i => Quoted.hexDigit (id.value.toNat / Nat.pow 16 (31 - i) % 16)

def text (id : JobId) : String :=
  let ds := id.digits
  let group (start length : Nat) := (ds.drop start).take length
  String.ofList <|
    group 0 8 ++ '-' :: group 8 4 ++ '-' :: group 12 4 ++ '-' :: group 16 4 ++ '-' :: group 20 12

end JobId

end DeferredJobs
