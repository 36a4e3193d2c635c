import Mathlib.Data.Option.Basic
import DeferredJobs.Json.Number

/-!
# Reading a number literal back

A literal is spelled part by part, and each part ends where the next one begins, so every spelling is
read as its literal. A written integer is an optional minus and a numeral. A numeral never leads with
a zero unless it is zero, and its digits denote the number that was written.

* `Spells`: the texts that the format has for a literal.
* `ofText?_of_spells`: every one of them is read as this literal.
* `value?_ofInteger`: the literal of an integer denotes this integer.
-/

namespace DeferredJobs

namespace Decimal

theorem isDigit_toChar (d : Digit) : d.toChar.isDigit = true := by
  revert d; decide

theorem toChar_ne_minus (d : Digit) : d.toChar ≠ '-' := by
  revert d; decide

theorem toChar_ne_plus (d : Digit) : d.toChar ≠ '+' := by
  revert d; decide

/-- Digits are read up to the first character that is none. -/
theorem leadingDigits_append (digits : List Digit) {rest : List Char}
    (h : ∀ c ∈ rest.head?, Digit.ofChar? c = none) :
    leadingDigits (digits.map Digit.toChar ++ rest) = (digits, rest) := by
  induction digits with
  | nil =>
    cases rest with
    | nil => rfl
    | cons c rest =>
      have hc : Digit.ofChar? c = none := h c rfl
      simp only [List.map_nil, List.nil_append, leadingDigits, hc]
  | cons d digits ih =>
    simp only [List.map_cons, List.cons_append, leadingDigits, Digit.ofChar?_toChar, ih]

/-- The numeral of a positive number leads with the digit that makes it the longest. -/
theorem numeral_of_pos {n : Nat} (h : 0 < n) : ∃ d rest, numeral n = d :: rest ∧ d.val ≠ 0 := by
  fun_induction numeral n with
  | case1 n hSmall =>
    refine ⟨⟨n, hSmall⟩, [], rfl, ?_⟩
    show n ≠ 0
    omega
  | case2 n hLarge ih =>
    obtain ⟨d, rest, hNumeral, hd⟩ := ih (by omega)
    rw [hNumeral]
    exact ⟨d, _, List.cons_append, hd⟩

end Decimal

namespace NumberLiteral

open Decimal

theorem wellFormedWhole_numeral (n : Nat) : wellFormedWhole (numeral n) = true := by
  rcases Nat.eq_zero_or_pos n with rfl | h
  · rw [numeral]
    rfl
  · obtain ⟨d, rest, hNumeral, hd⟩ := numeral_of_pos h
    rw [hNumeral]
    cases rest with
    | nil => rfl
    | cons e rest => simpa only [wellFormedWhole, bne_iff_ne, ne_eq] using hd

/-- A literal without fraction and exponent. -/
def integer (negative : Bool) (whole : List Digit) : NumberLiteral :=
  ⟨negative, whole, none, none⟩

/-! ## Spellings -/

def signText (negative : Bool) : List Char :=
  if negative then ['-'] else []

def fractionText : Option (List Digit) → List Char
  | none => []
  | some digits => '.' :: digitChars digits

/-- The letter of an exponent may be of either case, and a plus may be left out. -/
inductive SpellsExponent : Option ExponentPart → List Char → Prop
  | absent : SpellsExponent none []
  | written {letter : Char} {sign : List Char} {e : ExponentPart} (hLetter : letter = 'e' ∨ letter = 'E')
    (hSign : if e.negative then sign = ['-'] else sign = [] ∨ sign = ['+']) (hDigits : e.digits ≠ []) :
    SpellsExponent (some e) (letter :: (sign ++ digitChars e.digits))

/-- The text is one that the format has for the literal. -/
structure Spells (l : NumberLiteral) (text : List Char) : Prop where
  whole : wellFormedWhole l.whole = true
  fraction : l.fraction ≠ some []
  text_eq : ∃ exponent, SpellsExponent l.exponent exponent ∧
    text = signText l.negative ++ (digitChars l.whole ++ (fractionText l.fraction ++ exponent))

theorem text_integer (negative : Bool) (whole : List Digit) :
    (integer negative whole).text = (if negative then ['-'] else []) ++ digitChars whole := by
  cases negative <;> simp [integer, text]

theorem spells_integer (negative : Bool) {whole : List Digit} (h : wellFormedWhole whole = true) :
    (integer negative whole).Spells (integer negative whole).text where
  whole := h
  fraction := nofun
  text_eq := by
    refine ⟨[], .absent, ?_⟩
    show _ = signText negative ++ (digitChars whole ++ ([] ++ []))
    rw [text_integer, signText, List.append_nil, List.append_nil]

/-! ## Reading a spelling -/

theorem ne_nil_of_wellFormedWhole {whole : List Digit} (h : wellFormedWhole whole = true) :
    whole ≠ [] := by
  rintro rfl
  cases h

theorem someDigits?_append {digits : List Digit} (hNonempty : digits ≠ []) {rest : List Char}
    (hRest : ∀ c ∈ rest.head?, Digit.ofChar? c = none) :
    someDigits? (digitChars digits ++ rest) = some (digits, rest) := by
  obtain ⟨d, others, rfl⟩ := List.exists_cons_of_ne_nil hNonempty
  rw [someDigits?, digitChars, leadingDigits_append _ hRest]

theorem someDigits?_digitChars {digits : List Digit} (hNonempty : digits ≠ []) :
    someDigits? (digitChars digits) = some (digits, []) := by
  have h := someDigits?_append hNonempty (show ∀ c ∈ ([] : List Char).head?, Digit.ofChar? c = none
    from nofun)
  rwa [List.append_nil] at h

theorem readSign_digitChars {digits : List Digit} (hNonempty : digits ≠ []) :
    readSign (digitChars digits) = (false, digitChars digits) := by
  obtain ⟨d, others, rfl⟩ := List.exists_cons_of_ne_nil hNonempty
  rw [digitChars, List.map_cons, readSign]
  · intro rest h
    exact toChar_ne_minus d (List.cons.inj h).1
  · intro rest h
    exact toChar_ne_plus d (List.cons.inj h).1

namespace SpellsExponent

variable {exponent : Option ExponentPart} {text : List Char}

theorem head (h : SpellsExponent exponent text) : ∀ c ∈ text.head?, c = 'e' ∨ c = 'E' := by
  cases h with
  | absent => exact nofun
  | written hLetter =>
    intro c hc
    rwa [Option.some.inj hc] at hLetter

theorem read (h : SpellsExponent exponent text) : readExponent? text = some (exponent, []) := by
  cases h with
  | absent => rfl
  | @written letter sign e hLetter hSign hDigits =>
    have hSigned : readSign (sign ++ digitChars e.digits) = (e.negative, digitChars e.digits) := by
      cases hNegative : e.negative with
      | true =>
        rw [hNegative, if_pos rfl] at hSign
        rw [hSign]
        rfl
      | false =>
        rw [hNegative] at hSign
        rcases hSign with rfl | rfl
        · exact readSign_digitChars hDigits
        · rfl
    rw [readExponent?, if_pos hLetter, hSigned]
    show (someDigits? (digitChars e.digits)).map _ = _
    rw [someDigits?_digitChars hDigits]
    rfl

end SpellsExponent

theorem readFraction?_append {fraction : Option (List Digit)} (hFraction : fraction ≠ some [])
    {rest : List Char} (hRest : ∀ c ∈ rest.head?, c = 'e' ∨ c = 'E') :
    readFraction? (fractionText fraction ++ rest) = some (fraction, rest) := by
  cases fraction with
  | none =>
    rw [fractionText, List.nil_append, readFraction?]
    rintro others rfl
    rcases hRest '.' rfl with h | h <;> cases h
  | some digits =>
    have hNonempty : digits ≠ [] := fun h => hFraction (congrArg some h)
    have hDigits : someDigits? (digitChars digits ++ rest) = some (digits, rest) := by
      apply someDigits?_append hNonempty
      intro c hc
      rcases hRest c hc with rfl | rfl <;> rfl
    rw [fractionText, List.cons_append, readFraction?, hDigits]
    rfl

/-- What is read after the sign. -/
def ofUnsigned? (negative : Bool) (text : List Char) : Option NumberLiteral := do
  let (whole, text) ← someDigits? text
  guard (wellFormedWhole whole)
  let (fraction, text) ← readFraction? text
  let (exponent, text) ← readExponent? text
  guard text.isEmpty
  return ⟨negative, whole, fraction, exponent⟩

theorem ofText?_unsigned {text : List Char} (h : ∀ c ∈ text.head?, c ≠ '-') :
    ofText? text = ofUnsigned? false text := by
  unfold ofText?
  split
  rename_i negative rest hSign
  split at hSign
  · exact absurd rfl (h '-' rfl)
  · cases hSign
    rfl

/-- Every spelling of a literal reads as this literal. -/
theorem ofText?_of_spells {l : NumberLiteral} {text : List Char} (h : l.Spells text) :
    ofText? text = some l := by
  obtain ⟨hWhole, hFraction, exponent, hExponent, rfl⟩ := h
  have hNonempty := ne_nil_of_wellFormedWhole hWhole
  have hRest : ∀ c ∈ (fractionText l.fraction ++ exponent).head?, Digit.ofChar? c = none := by
    intro c hc
    cases hDigits : l.fraction with
    | none =>
      rw [hDigits] at hc
      rcases hExponent.head c hc with rfl | rfl <;> rfl
    | some digits =>
      rw [hDigits] at hc
      cases hc
      rfl
  have hUnsigned : ofUnsigned? l.negative
      (digitChars l.whole ++ (fractionText l.fraction ++ exponent)) = some l := by
    have hGuard : (guard (wellFormedWhole l.whole = true) : Option Unit) = some () :=
      (Option.guard_eq_some' ()).2 hWhole
    rw [ofUnsigned?, someDigits?_append hNonempty hRest]
    show ((guard (wellFormedWhole l.whole = true) : Option Unit) >>= _) = _
    rw [hGuard]
    show (readFraction? (fractionText l.fraction ++ exponent) >>= _) = _
    rw [readFraction?_append hFraction hExponent.head]
    show (readExponent? exponent >>= _) = _
    rw [hExponent.read]
    rfl
  cases hNegative : l.negative with
  | true =>
    rw [hNegative] at hUnsigned
    exact hUnsigned
  | false =>
    rw [hNegative] at hUnsigned
    rw [signText, if_neg Bool.false_ne_true, List.nil_append, ofText?_unsigned]
    · exact hUnsigned
    · intro c hc
      obtain ⟨d, others, hDigits⟩ := List.exists_cons_of_ne_nil hNonempty
      rw [hDigits] at hc
      cases hc
      exact toChar_ne_minus d

/-! ## Integers -/

theorem ofInt?_value (n : Integer) : Integer.ofInt? n.value = some n := by
  rw [Integer.ofInt?, dif_pos ⟨n.low, n.high⟩]

/-- The literal of an integer denotes this integer. -/
theorem value?_ofInteger (n : Integer) : (ofInteger n).value? = some (.int n) := by
  have hInteger : (ofInteger n).integer? = some n := by
    simp only [integer?, ofInteger, value_numeral, decide_eq_true_eq]
    by_cases hNegative : n.value < 0
    · have hNonzero : n.value.natAbs ≠ 0 := by omega
      have hAbs : -(n.value.natAbs : Int) = n.value := by omega
      rw [if_pos hNegative, if_neg hNonzero, hAbs, ofInt?_value]
    · have hAbs : (n.value.natAbs : Int) = n.value := by omega
      rw [if_neg hNegative, hAbs, ofInt?_value]
  rw [value?, hInteger]

end NumberLiteral

end DeferredJobs
