import DeferredJobs.Json.Printer

/-!
# Reading a quoted string back

A string is written between quotes character by character, and the scanner turns what is written
for one character into one piece: the character itself, or a UTF-16 code unit where a control
character has no short escape. No such unit is half of a surrogate pair, so the pieces spell the
string again.

* `decode?_map_pieceOf`: the pieces of a text spell the text.
* `run?_writeString`: scanning a written string adds this string to the tokens and nothing else.
-/

namespace DeferredJobs

namespace Quoted

theorem hexValue?_hexDigit {n : Nat} (h : n < 16) : hexValue? (hexDigit n) = some n := by
  have hAll : ∀ d : Fin 16, hexValue? (hexDigit d.val) = some d.val := by decide
  exact hAll ⟨n, h⟩

/-- The control characters that are written with a letter. -/
def lettered : List Char := ['\x08', '\x0c', '\n', '\r', '\t']

/-- What the scanner makes of a written character. -/
def pieceOf (c : Char) : Piece :=
  if c.toNat < 0x20 ∧ c ∉ lettered then .unit c.toNat else .char c

theorem decode?_unit {code : Nat} (h : code < 0xD800) (rest : List Piece) :
    decode? (.unit code :: rest) = (decode? rest).map (Char.ofNat code :: ·) := by
  have hHigh : isHighSurrogate code = false := by
    simp only [isHighSurrogate, Bool.and_eq_false_iff, decide_eq_false_iff_not]
    omega
  have hLow : isLowSurrogate code = false := by
    simp only [isLowSurrogate, Bool.and_eq_false_iff, decide_eq_false_iff_not]
    omega
  cases rest with
  | nil => simp [decode?, hHigh, hLow]
  | cons piece rest => cases piece <;> simp [decode?, hHigh, hLow]

theorem decode?_pieceOf (c : Char) (rest : List Piece) :
    decode? (pieceOf c :: rest) = (decode? rest).map (c :: ·) := by
  unfold pieceOf
  split
  · rename_i h
    rw [decode?_unit (by omega), Char.ofNat_toNat]
  · rw [decode?]

/-- The pieces of a text spell the text. -/
theorem decode?_map_pieceOf (text : List Char) : decode? (text.map pieceOf) = some text := by
  induction text with
  | nil => rfl
  | cons c text ih => rw [List.map_cons, decode?_pieceOf, ih, Option.map_some]

end Quoted

namespace Scanner

open Quoted

theorem run?_cons {s next : Scanner} {c : Char} (h : s.step? c = some next) (rest : List Char) :
    s.run? (c :: rest) = next.run? rest := by
  simp only [run?, h]

theorem run?_encodeChar (c : Char) (pieces : List Piece) (tokens : List Token) :
    run? ⟨.quoted pieces, tokens⟩ (encodeChar c) =
      some ⟨.quoted (pieceOf c :: pieces), tokens⟩ := by
  unfold encodeChar
  split
  case h_8 hQuote hBackslash h8 hc hn hr ht =>
    have hLettered : c ∉ lettered := by
      simp only [lettered, List.mem_cons, List.not_mem_nil, or_false, not_or]
      exact ⟨h8, hc, hn, hr, ht⟩
    split
    · rename_i hControl
      have hHigh := hexValue?_hexDigit (show c.toNat / 16 < 16 by omega)
      have hLow := hexValue?_hexDigit (show c.toNat % 16 < 16 by omega)
      have hZero : hexValue? '0' = some 0 := by decide
      have hSum : 16 * (c.toNat / 16) + c.toNat % 16 = c.toNat := by omega
      simp [run?, step?, pieceOf, hControl, hLettered, hHigh, hLow, hZero, hSum]
    · rename_i hPrintable
      refine run?_cons ?_ []
      simp only [step?, if_neg hQuote, if_neg hBackslash, hPrintable, pieceOf, false_and, ite_false]
  all_goals rfl

theorem run?_encode (text : List Char) (pieces : List Piece) (tokens : List Token) :
    run? ⟨.quoted pieces, tokens⟩ (encode text) =
      some ⟨.quoted ((text.map pieceOf).reverse ++ pieces), tokens⟩ := by
  induction text generalizing pieces with
  | nil => rfl
  | cons c text ih =>
    have hCons : encode (c :: text) = encodeChar c ++ encode text := rfl
    rw [hCons, run?_append, run?_encodeChar, Option.bind_some, ih]
    simp

theorem step?_endQuote (pieces : List Piece) (tokens : List Token) :
    step? ⟨.quoted pieces, tokens⟩ '"' =
      some ⟨.between, .string ((decode? pieces.reverse).map String.ofList) :: tokens⟩ := rfl

/-- Scanning a written string adds this string to the tokens and nothing else. -/
theorem run?_writeString (text : String) (tokens : List Token) :
    run? ⟨.between, tokens⟩ (Json.writeString text) =
      some ⟨.between, .string (some text) :: tokens⟩ := by
  have hBegin : step? ⟨.between, tokens⟩ '"' = some ⟨.quoted [], tokens⟩ := rfl
  have hEnd := step?_endQuote ((text.toList.map pieceOf).reverse) tokens
  rw [List.reverse_reverse, decode?_map_pieceOf, Option.map_some, String.ofList_toList] at hEnd
  unfold Json.writeString
  rw [List.cons_append, run?_cons hBegin, run?_append, run?_encode, List.append_nil,
    Option.bind_some, run?_cons hEnd]
  rfl

end Scanner

end DeferredJobs
