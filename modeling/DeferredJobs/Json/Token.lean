import DeferredJobs.Json.Number
import DeferredJobs.Json.Quoted

/-!
# Tokens

A text is read character by character. Outside a token the four blanks are skipped; a run of the
characters that numbers are made of must be one number literal, and a run of small letters one of
the three words. `Scanner.step` says what one character does, `Token.ofText?` runs it over a text.
-/

namespace DeferredJobs

inductive Token where
  | openArray | closeArray | openObject | closeObject | comma | colon
  | null
  | bool (value : Bool)
  | number (literal : NumberLiteral)
  /-- A string; `none` if its escapes name half of a surrogate pair. -/
  | string (text : Option String)
  deriving DecidableEq

/-- What the characters read last belong to. Characters and pieces are kept last first. -/
inductive Scanner.Mode where
  | between
  | number (run : List Char)
  | word (run : List Char)
  | quoted (pieces : List Quoted.Piece)
  | escape (pieces : List Quoted.Piece)
  | unit (pieces : List Quoted.Piece) (missing : Nat) (code : Nat)

structure Scanner where
  mode : Scanner.Mode
  /-- The tokens found so far, last first. -/
  tokens : List Token

namespace Scanner

/-- Space, tab, line feed and carriage return, the blanks of the format. -/
def isSpace (c : Char) : Bool :=
  c == ' ' || c == '\t' || c == '\n' || c == '\r'

def isNumeric (c : Char) : Bool :=
  c.isDigit || c == '-' || c == '+' || c == '.' || c == 'e' || c == 'E'

def punctuation? : Char → Option Token
  | '[' => some .openArray
  | ']' => some .closeArray
  | '\x7b' => some .openObject
  | '\x7d' => some .closeObject
  | ',' => some .comma
  | ':' => some .colon
  | _ => none

def word? (run : List Char) : Option Token :=
  if run = ['n', 'u', 'l', 'l'] then some .null
  else if run = ['t', 'r', 'u', 'e'] then some (.bool true)
  else if run = ['f', 'a', 'l', 's', 'e'] then some (.bool false)
  else none

/-- A character outside all tokens. -/
def start? (tokens : List Token) (c : Char) : Option Scanner :=
  if isSpace c then some ⟨.between, tokens⟩
  else if c = '"' then some ⟨.quoted [], tokens⟩
  else if c.isDigit || c == '-' then some ⟨.number [c], tokens⟩
  else if c.isLower then some ⟨.word [c], tokens⟩
  else (punctuation? c).map fun token => ⟨.between, token :: tokens⟩

/-- Ends the token being read where the text allows it. -/
def close? (s : Scanner) : Option (List Token) :=
  match s.mode with
  | .between => some s.tokens
  | .number run => (NumberLiteral.ofText? run.reverse).map fun l => .number l :: s.tokens
  | .word run => (word? run.reverse).map (· :: s.tokens)
  | .quoted _ | .escape _ | .unit _ _ _ => none

def step? (s : Scanner) (c : Char) : Option Scanner :=
  match s.mode with
  | .between => start? s.tokens c
  | .number run =>
    if isNumeric c then some ⟨.number (c :: run), s.tokens⟩ else s.close? >>= (start? · c)
  | .word run =>
    if c.isLower then some ⟨.word (c :: run), s.tokens⟩ else s.close? >>= (start? · c)
  | .quoted pieces =>
    if c = '"' then
      some ⟨.between, .string ((Quoted.decode? pieces.reverse).map String.ofList) :: s.tokens⟩
    else if c = '\\' then some ⟨.escape pieces, s.tokens⟩
    else if c.toNat < 0x20 then none
    else some ⟨.quoted (.char c :: pieces), s.tokens⟩
  | .escape pieces =>
    if c = 'u' then some ⟨.unit pieces 4 0, s.tokens⟩
    else (Quoted.shortEscape? c).map fun meant => ⟨.quoted (.char meant :: pieces), s.tokens⟩
  | .unit pieces missing code =>
    (Quoted.hexValue? c).map fun digit =>
      let code := 16 * code + digit
      match missing with
      | 0 | 1 => ⟨.quoted (.unit code :: pieces), s.tokens⟩
      | left + 2 => ⟨.unit pieces (left + 1) code, s.tokens⟩

def run? (s : Scanner) : List Char → Option Scanner
  | [] => some s
  | c :: rest =>
    match s.step? c with
    | none => none
    | some next => next.run? rest

theorem run?_append (s : Scanner) (a b : List Char) :
    s.run? (a ++ b) = (s.run? a).bind (·.run? b) := by
  induction a generalizing s with
  | nil => rfl
  | cons c a ih =>
    simp only [List.cons_append, run?]
    cases s.step? c with
    | none => rfl
    | some next => exact ih next

end Scanner

/-- The tokens of a text; none if some part of it is no token. -/
def Token.ofText? (text : List Char) : Option (List Token) :=
  (Scanner.run? ⟨.between, []⟩ text).bind fun s => s.close?.map List.reverse

end DeferredJobs
