import DeferredJobs.Json.Tree
import DeferredJobs.Text.Encoding

/-!
# JSON in bytes

Bytes are read one by one, before anything is known about those that follow. Outside strings a byte
is a character of ASCII or refused. In a string the bytes beyond ASCII are kept until the next byte
of ASCII, and those between two of them must encode a text, whose characters are read then.
`ByteScanner.step?` says what one byte does, `Json.ofBytes?` is the reader.
-/

namespace DeferredJobs

structure ByteScanner where
  /-- Where the reading of the decoded characters has got to. -/
  scanner : Scanner
  /-- The bytes of a string that are not decoded yet, last first. -/
  pending : List UInt8

namespace ByteScanner

/-- Reads the characters that the pending bytes encode; none if they encode no text. -/
def flush? (s : ByteScanner) : Option Scanner :=
  (Text.decode? s.pending.reverse).bind s.scanner.run?

def step? (s : ByteScanner) (byte : UInt8) : Option ByteScanner :=
  if byte < 0x80 then do
    let scanner ← s.flush?
    let next ← scanner.step? (Char.ofUInt8 byte)
    return ⟨next, []⟩
  else
    match s.scanner.mode with
    | .quoted _ => some ⟨s.scanner, byte :: s.pending⟩
    | _ => none

def run? (s : ByteScanner) : List UInt8 → Option ByteScanner
  | [] => some s
  | byte :: rest =>
    match s.step? byte with
    | none => none
    | some next => next.run? rest

/-- Ends the token being read where the bytes allow it. -/
def close? (s : ByteScanner) : Option (List Token) :=
  s.flush?.bind Scanner.close?

end ByteScanner

/-- The tokens of bytes; none if some of them are no token. -/
def Token.ofBytes? (bytes : List UInt8) : Option (List Token) :=
  (ByteScanner.run? ⟨⟨.between, []⟩, []⟩ bytes).bind fun s => s.close?.map List.reverse

/-- Reads bytes strictly, as `Json.ofText?` reads a text. -/
def Json.ofBytes? (bytes : List UInt8) : Option Json := do
  let tree ← (Token.ofBytes? bytes).bind Tree.ofTokens?
  guard (tree.depth ≤ Json.maxDepth)
  tree.value?

end DeferredJobs
