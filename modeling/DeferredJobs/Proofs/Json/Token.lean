import DeferredJobs.Proofs.Json.Number
import DeferredJobs.Proofs.Json.Quoted
import DeferredJobs.Proofs.Json.Storable

/-!
# The tokens of a written value

Both layouts of a value scan to the same tokens, `Json.tokens`. A number or a word only ends
with the character after it, so the law speaks of the text of a value together with what follows,
which must not go on with a character of a number or a word (`Delimited`). In a written text
that is always a comma, a line break, or the end of a container.

* `scan_write`: the text of a value scans to its tokens, whatever was scanned before it.
* `Token.ofText?_write`: the same for a whole text.

Doubles are left out: `Json.Integral` says that a value holds none.
-/

namespace DeferredJobs

namespace Json

mutual

/-- The tokens that stand for a value, in either layout. -/
def tokens : Json → List Token
  | .null => [.null]
  | .bool value => [.bool value]
  | .int n => [.number (.ofInteger n)]
  | .double x => [.number (.ofDouble x)]
  | .string text => [.string (some text)]
  | .array items => .openArray :: (tokensOfItems true items ++ [.closeArray])
  | .object members => .openObject :: (tokensOfMembers true members ++ [.closeObject])

def tokensOfItems (isFirst : Bool) : List Json → List Token
  | [] => []
  | item :: rest => (if isFirst then [] else [.comma]) ++ item.tokens ++ tokensOfItems false rest

def tokensOfMembers (isFirst : Bool) : List (String × Json) → List Token
  | [] => []
  | (name, value) :: rest =>
    (if isFirst then [] else [.comma]) ++ .string (some name) :: .colon :: value.tokens ++
      tokensOfMembers false rest

end

end Json

namespace Scanner

/-- The tokens of a text that follows the given ones, last first. -/
def scan (tokens : List Token) (text : List Char) : Option (List Token) :=
  (run? ⟨.between, tokens⟩ text).bind close?

/-- What follows continues neither a number nor a word. -/
def Delimited (rest : List Char) : Prop :=
  ∀ c ∈ rest.head?, isNumeric c = false ∧ c.isLower = false

theorem delimited_nil : Delimited [] := by simp [Delimited]

theorem delimited_cons {c : Char} (hNumeric : isNumeric c = false) (hLower : c.isLower = false)
    (rest : List Char) : Delimited (c :: rest) := by
  simp [Delimited, hNumeric, hLower]

theorem delimited_comma (rest : List Char) : Delimited (',' :: rest) :=
  delimited_cons (by decide) (by decide) rest

theorem delimited_spaces {spaces : List Char} (h : ∀ c ∈ spaces, isSpace c = true)
    {rest : List Char} (hRest : Delimited rest) : Delimited (spaces ++ rest) := by
  cases spaces with
  | nil => exact hRest
  | cons c spaces =>
    have hSpace := (List.forall_mem_cons.1 h).1
    simp only [isSpace, Bool.or_eq_true, beq_iff_eq] at hSpace
    rcases hSpace with ((rfl | rfl) | rfl) | rfl <;> exact delimited_cons rfl rfl _

theorem isSpace_of_mem_lineBreak (layout : Layout) (level : Nat) :
    ∀ c ∈ layout.lineBreak level, isSpace c = true := by
  cases layout with
  | compact => exact List.forall_mem_nil _
  | indented =>
    refine List.forall_mem_cons.2 ⟨rfl, fun c hc => ?_⟩
    rw [List.eq_of_mem_replicate hc]
    rfl

theorem delimited_lineBreak (layout : Layout) (level : Nat) {rest : List Char}
    (h : Delimited rest) : Delimited (layout.lineBreak level ++ rest) :=
  delimited_spaces (isSpace_of_mem_lineBreak layout level) h

/-! ## Blanks -/

theorem scan_space {c : Char} (h : isSpace c = true) (tokens : List Token) (rest : List Char) :
    scan tokens (c :: rest) = scan tokens rest := by
  have hStep : step? ⟨.between, tokens⟩ c = some ⟨.between, tokens⟩ := by
    simp only [step?, start?, h, ite_true]
  rw [scan, run?_cons hStep, scan]

theorem scan_spaces {spaces : List Char} (h : ∀ c ∈ spaces, isSpace c = true)
    (tokens : List Token) (rest : List Char) : scan tokens (spaces ++ rest) = scan tokens rest := by
  induction spaces with
  | nil => rfl
  | cons c spaces ih =>
    obtain ⟨hFirst, hOthers⟩ := List.forall_mem_cons.1 h
    rw [List.cons_append, scan_space hFirst, ih hOthers]

theorem scan_lineBreak (layout : Layout) (level : Nat) (tokens : List Token) (rest : List Char) :
    scan tokens (layout.lineBreak level ++ rest) = scan tokens rest :=
  scan_spaces (isSpace_of_mem_lineBreak layout level) tokens rest

theorem scan_afterColon (layout : Layout) (tokens : List Token) (rest : List Char) :
    scan tokens (layout.afterColon ++ rest) = scan tokens rest := by
  cases layout with
  | compact => rfl
  | indented => exact scan_space (by decide) tokens rest

/-! ## Single tokens -/

/-- A token that the next character ends is closed by any delimiter and by the end of the text. -/
theorem run?_bind_close? {s : Scanner} {tokens : List Token} {rest : List Char}
    (hClose : s.close? = some tokens)
    (hStep : ∀ c, isNumeric c = false → c.isLower = false → s.step? c = start? tokens c)
    (hRest : Delimited rest) : (s.run? rest).bind close? = scan tokens rest := by
  cases rest with
  | nil => exact hClose
  | cons c rest =>
    obtain ⟨hNumeric, hLower⟩ := hRest c rfl
    have hNext : s.step? c = step? ⟨.between, tokens⟩ c := hStep c hNumeric hLower
    simp only [scan, run?, hNext]

theorem run?_numeric {run : List Char} (h : ∀ c ∈ run, isNumeric c = true) (done : List Char)
    (tokens : List Token) (rest : List Char) :
    run? ⟨.number done, tokens⟩ (run ++ rest) =
      run? ⟨.number (run.reverse ++ done), tokens⟩ rest := by
  induction run generalizing done with
  | nil => rfl
  | cons c run ih =>
    have hStep : step? ⟨.number done, tokens⟩ c = some ⟨.number (c :: done), tokens⟩ := by
      simp only [step?, h c List.mem_cons_self, ite_true]
    rw [List.cons_append, run?_cons hStep, ih fun d hd => h d (List.mem_cons_of_mem c hd)]
    simp

theorem isSpace_of_beginsNumber {c : Char} (h : (c.isDigit || c == '-') = true) :
    isSpace c = false := by
  cases hSpace : isSpace c with
  | false => rfl
  | true =>
    simp only [isSpace, Bool.or_eq_true, beq_iff_eq] at hSpace
    rcases hSpace with ((rfl | rfl) | rfl) | rfl <;> revert h <;> decide

/-- Numeric characters that read as a literal are one token. -/
theorem scan_number {c : Char} {run : List Char} {l : NumberLiteral}
    (hFirst : (c.isDigit || c == '-') = true) (hRun : ∀ d ∈ run, isNumeric d = true)
    (hText : NumberLiteral.ofText? (c :: run) = some l) (tokens : List Token) {rest : List Char}
    (hRest : Delimited rest) :
    scan tokens (c :: run ++ rest) = scan (.number l :: tokens) rest := by
  have hBegin : step? ⟨.between, tokens⟩ c = some ⟨.number [c], tokens⟩ := by
    have hSpace := isSpace_of_beginsNumber hFirst
    have hQuote : c ≠ '"' := by
      rintro rfl
      revert hFirst
      decide
    simp only [step?, start?, hSpace, Bool.false_eq_true, hQuote, hFirst, ite_false, ite_true]
  have hClose : close? ⟨.number (run.reverse ++ [c]), tokens⟩ = some (.number l :: tokens) := by
    simp [close?, hText]
  rw [scan, List.cons_append, run?_cons hBegin, run?_numeric hRun]
  refine run?_bind_close? hClose (fun d hNumeric _ => ?_) hRest
  simp only [step?, hNumeric, Bool.false_eq_true, ite_false, hClose]
  rfl

theorem isNumeric_toChar (d : Decimal.Digit) : isNumeric d.toChar = true := by
  simp only [isNumeric, Decimal.isDigit_toChar, Bool.true_or]

theorem isNumeric_digitChars (digits : List Decimal.Digit) :
    ∀ c ∈ NumberLiteral.digitChars digits, isNumeric c = true := by
  intro c hc
  obtain ⟨d, -, rfl⟩ := List.mem_map.1 hc
  exact isNumeric_toChar d

theorem isNumeric_of_spellsExponent {exponent : Option ExponentPart} {text : List Char}
    (h : NumberLiteral.SpellsExponent exponent text) : ∀ c ∈ text, isNumeric c = true := by
  cases h with
  | absent => exact nofun
  | @written letter sign e hLetter hSign hDigits =>
    have hSignNumeric : ∀ c ∈ sign, isNumeric c = true := by
      intro c hc
      cases hNegative : e.negative with
      | true =>
        rw [hNegative, if_pos rfl] at hSign
        rw [hSign, List.mem_singleton] at hc
        rw [hc]
        rfl
      | false =>
        rw [hNegative] at hSign
        rcases hSign with rfl | rfl
        · cases hc
        · rw [List.mem_singleton.1 hc]
          rfl
    have hRest := List.forall_mem_append.2 ⟨hSignNumeric, isNumeric_digitChars e.digits⟩
    refine List.forall_mem_cons.2 ⟨?_, hRest⟩
    rcases hLetter with rfl | rfl <;> rfl

theorem isNumeric_fractionText (fraction : Option (List Decimal.Digit)) :
    ∀ c ∈ NumberLiteral.fractionText fraction, isNumeric c = true := by
  cases fraction with
  | none => exact nofun
  | some digits => exact List.forall_mem_cons.2 ⟨rfl, isNumeric_digitChars digits⟩

/-- Every spelling of a literal scans to this literal. -/
theorem scan_spells {l : NumberLiteral} {text : List Char} (h : l.Spells text)
    (tokens : List Token) {rest : List Char} (hRest : Delimited rest) :
    scan tokens (text ++ rest) = scan (.number l :: tokens) rest := by
  have hText := NumberLiteral.ofText?_of_spells h
  obtain ⟨hWhole, -, exponent, hExponent, rfl⟩ := h
  obtain ⟨d, whole, hDigits⟩ :=
    List.exists_cons_of_ne_nil (NumberLiteral.ne_nil_of_wellFormedWhole hWhole)
  rw [hDigits] at hText ⊢
  have hAfter := List.forall_mem_append.2
    ⟨isNumeric_fractionText l.fraction, isNumeric_of_spellsExponent hExponent⟩
  cases hNegative : l.negative with
  | true =>
    rw [hNegative] at hText
    have hRun := List.forall_mem_append.2 ⟨isNumeric_digitChars (d :: whole), hAfter⟩
    exact scan_number (by decide) hRun hText tokens hRest
  | false =>
    rw [hNegative] at hText
    have hFirst : (d.toChar.isDigit || d.toChar == '-') = true := by
      rw [Decimal.isDigit_toChar, Bool.true_or]
    have hRun := List.forall_mem_append.2 ⟨isNumeric_digitChars whole, hAfter⟩
    exact scan_number hFirst hRun hText tokens hRest

theorem scan_ofInteger (n : Integer) (tokens : List Token) {rest : List Char}
    (hRest : Delimited rest) :
    scan tokens ((NumberLiteral.ofInteger n).text ++ rest) =
      scan (.number (.ofInteger n) :: tokens) rest := by
  have hSpells := NumberLiteral.spells_integer (n.value < 0)
    (NumberLiteral.wellFormedWhole_numeral n.value.natAbs)
  exact scan_spells hSpells tokens hRest

theorem scan_word (word : List Char) {token : Token} (hWord : word? word = some token)
    (tokens : List Token) {rest : List Char} (hRest : Delimited rest)
    (hRun : run? ⟨.between, tokens⟩ (word ++ rest) = run? ⟨.word word.reverse, tokens⟩ rest) :
    scan tokens (word ++ rest) = scan (token :: tokens) rest := by
  have hClose : close? ⟨.word word.reverse, tokens⟩ = some (token :: tokens) := by
    simp [close?, hWord]
  rw [scan, hRun]
  refine run?_bind_close? hClose (fun d _ hLower => ?_) hRest
  simp only [step?, hLower, Bool.false_eq_true, ite_false, hClose]
  rfl

theorem scan_writeString (text : String) (tokens : List Token) (rest : List Char) :
    scan tokens (Json.writeString text ++ rest) = scan (.string (some text) :: tokens) rest := by
  rw [scan, run?_append, run?_writeString, Option.bind_some, scan]

/-! ## Values -/

theorem delimited_writeItems (layout : Layout) (level : Nat) (items : List Json)
    {rest : List Char} (h : Delimited rest) :
    Delimited (Json.writeItems layout level false items ++ rest) := by
  cases items with
  | nil => exact delimited_lineBreak layout level h
  | cons item items => exact delimited_comma _

theorem delimited_writeMembers (layout : Layout) (level : Nat) (members : List (String × Json))
    {rest : List Char} (h : Delimited rest) :
    Delimited (Json.writeMembers layout level false members ++ rest) := by
  cases members with
  | nil => exact delimited_lineBreak layout level h
  | cons member members => exact delimited_comma _

/-- The comma before an item that is not the first. -/
theorem scan_separator (isFirst : Bool) (tokens : List Token) (rest : List Char) :
    scan tokens ((if isFirst then [] else [',']) ++ rest) =
      scan ((if isFirst then [] else [.comma]) ++ tokens) rest := by
  cases isFirst <;> rfl

mutual

/-- The text of a value scans to its tokens, whatever was scanned before it. -/
theorem scan_write (layout : Layout) (level : Nat) (v : Json) (h : v.Integral)
    (tokens : List Token) {rest : List Char} (hRest : Delimited rest) :
    scan tokens (v.write layout level ++ rest) = scan (v.tokens.reverse ++ tokens) rest := by
  match v, h with
  | .null, _ => exact scan_word ['n', 'u', 'l', 'l'] rfl tokens hRest rfl
  | .bool true, _ => exact scan_word ['t', 'r', 'u', 'e'] rfl tokens hRest rfl
  | .bool false, _ => exact scan_word ['f', 'a', 'l', 's', 'e'] rfl tokens hRest rfl
  | .int n, _ => exact scan_ofInteger n tokens hRest
  | .string text, _ => exact scan_writeString text tokens rest
  | .array items, h =>
    have hClose : Delimited (']' :: rest) := delimited_cons (by decide) (by decide) rest
    show scan (.openArray :: tokens) (Json.writeItems layout level true items ++ [']'] ++ rest) = _
    rw [List.append_assoc, List.singleton_append,
      scan_writeItems layout level true items h _ hClose]
    show scan (.closeArray :: _) rest = _
    simp [Json.tokens]
  | .object members, h =>
    have hClose : Delimited ('\x7d' :: rest) := delimited_cons (by decide) (by decide) rest
    show scan (.openObject :: tokens)
      (Json.writeMembers layout level true members ++ ['\x7d'] ++ rest) = _
    rw [List.append_assoc, List.singleton_append,
      scan_writeMembers layout level true members h _ hClose]
    show scan (.closeObject :: _) rest = _
    simp [Json.tokens]

theorem scan_writeItems (layout : Layout) (level : Nat) (isFirst : Bool) (items : List Json)
    (h : Json.IntegralItems items) (tokens : List Token) {rest : List Char}
    (hRest : Delimited rest) :
    scan tokens (Json.writeItems layout level isFirst items ++ rest) =
      scan ((Json.tokensOfItems isFirst items).reverse ++ tokens) rest := by
  match items, h with
  | [], _ =>
    cases isFirst with
    | true => rfl
    | false => exact scan_lineBreak layout level tokens rest
  | item :: items, h =>
    have hNext := delimited_writeItems layout level items hRest
    rw [Json.writeItems, List.append_assoc, List.append_assoc, List.append_assoc, scan_separator,
      scan_lineBreak, scan_write layout (level + 1) item h.1 _ hNext,
      scan_writeItems layout level false items h.2 _ hRest]
    cases isFirst <;> simp [Json.tokensOfItems]

theorem scan_writeMembers (layout : Layout) (level : Nat) (isFirst : Bool)
    (members : List (String × Json)) (h : Json.IntegralMembers members) (tokens : List Token)
    {rest : List Char} (hRest : Delimited rest) :
    scan tokens (Json.writeMembers layout level isFirst members ++ rest) =
      scan ((Json.tokensOfMembers isFirst members).reverse ++ tokens) rest := by
  match members, h with
  | [], _ =>
    cases isFirst with
    | true => rfl
    | false => exact scan_lineBreak layout level tokens rest
  | (name, value) :: members, h =>
    have hNext := delimited_writeMembers layout level members hRest
    have hColon (tokens : List Token) (rest : List Char) :
        scan tokens (':' :: rest) = scan (.colon :: tokens) rest := rfl
    simp only [Json.writeMembers, List.append_assoc, List.cons_append]
    rw [scan_separator, scan_lineBreak, scan_writeString, hColon, scan_afterColon,
      scan_write layout (level + 1) value h.1 _ hNext,
      scan_writeMembers layout level false members h.2 _ hRest]
    cases isFirst <;> simp [Json.tokensOfMembers]

end

end Scanner

theorem Token.ofText?_eq_scan (text : List Char) :
    Token.ofText? text = (Scanner.scan [] text).map List.reverse := by
  unfold Token.ofText? Scanner.scan
  cases Scanner.run? ⟨.between, []⟩ text <;> rfl

/-- Both layouts of a value have the same tokens. -/
theorem Token.ofText?_write (layout : Layout) (v : Json) (h : v.Integral) :
    Token.ofText? (v.write layout 0) = some v.tokens := by
  have hScan := Scanner.scan_write layout 0 v h [] Scanner.delimited_nil
  have hEnd (tokens : List Token) : Scanner.scan tokens [] = some tokens := rfl
  rw [List.append_nil, List.append_nil, hEnd] at hScan
  rw [Token.ofText?_eq_scan, hScan, Option.map_some, List.reverse_reverse]

end DeferredJobs
