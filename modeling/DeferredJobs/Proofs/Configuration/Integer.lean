import DeferredJobs.Proofs.Configuration.Demand
import DeferredJobs.Proofs.Json.Member
import DeferredJobs.Proofs.Json.Overflow

/-!
# Integers in a text

A literal without fraction and exponent denotes an integer. It is kept exactly if it is one of those
that JSON values can hold, and as a double otherwise, which is never read as an integer again. The
minus zero is a double too. So a field of a word type holds the integer that its literal denotes or
is refused.

* `integer?_eq_some_iff`: the literals that are kept exactly.
* `FieldType.Words`: the types of fields that hold the integers of a range.
* `Words.reads`: how such a field is read from a literal.
* `denotes_of_require`, `denotes_of_get?`: what was read is what the text says, whatever else it
  holds.
-/

namespace DeferredJobs

namespace NumberLiteral

open Decimal (Digit value)

/-- Neither a fraction nor an exponent is written. -/
def IsWhole (l : NumberLiteral) : Prop :=
  l.fraction = none ∧ l.exponent = none

/-- The integer that the sign and the whole part denote. -/
def toInt (l : NumberLiteral) : Int :=
  if l.negative then -(value l.whole : Int) else value l.whole

/-- The text of the one whole literal that denotes an integer and yet is no integer. -/
def minusZero : List Char := ['-', '0']

variable {l : NumberLiteral} {literal : List Char}

theorem natAbs_toInt (l : NumberLiteral) : l.toInt.natAbs = value l.whole := by
  rw [toInt]
  split
  · rw [Int.natAbs_neg, Int.natAbs_natCast]
  · rw [Int.natAbs_natCast]

theorem eq_integer (h : l.IsWhole) : l = integer l.negative l.whole := by
  obtain ⟨negative, whole, fraction, exponent⟩ := l
  obtain ⟨rfl, rfl⟩ := h
  rfl

theorem ofInt?_eq_some_iff {n : Int} {k : Integer} : Integer.ofInt? n = some k ↔ k.value = n := by
  constructor
  · intro h
    rw [Integer.ofInt?] at h
    split at h
    · cases h
      rfl
    · cases h
  · rintro rfl
    exact ofInt?_value k

theorem isWhole_of_integer? {k : Integer} (h : l.integer? = some k) : l.IsWhole := by
  rw [integer?] at h
  split at h
  · rename_i hFraction hExponent
    exact ⟨hFraction, hExponent⟩
  · cases h

theorem integer?_of_isWhole (h : l.IsWhole) :
    l.integer? =
      if l.negative = true ∧ value l.whole = 0 then none else Integer.ofInt? l.toInt := by
  obtain ⟨negative, whole, fraction, exponent⟩ := l
  obtain ⟨rfl, rfl⟩ := h
  cases negative with
  | true => by_cases hZero : value whole = 0 <;> simp [integer?, toInt, hZero]
  | false => simp [integer?, toInt]

/-- A whole literal is kept exactly if its integer can be, but for the minus zero. -/
theorem integer?_eq_some_iff {k : Integer} :
    l.integer? = some k ↔
      l.IsWhole ∧ ¬ (l.negative = true ∧ value l.whole = 0) ∧ k.value = l.toInt := by
  constructor
  · intro h
    have hWhole := isWhole_of_integer? h
    rw [integer?_of_isWhole hWhole] at h
    split at h
    · cases h
    · rename_i hZero
      exact ⟨hWhole, hZero, ofInt?_eq_some_iff.1 h⟩
  · rintro ⟨hWhole, hZero, hValue⟩
    rw [integer?_of_isWhole hWhole, if_neg hZero, ofInt?_eq_some_iff]
    exact hValue

theorem value_pos {d : Digit} (h : d.val ≠ 0) (rest : List Digit) : 0 < value (d :: rest) := by
  have hLow := (Decimal.valueFrom_bounds (10 * 0 + d.val) rest).1
  have hPower : 0 < 10 ^ rest.length := Nat.pow_pos (by omega)
  have hProduct : 0 < (10 * 0 + d.val) * 10 ^ rest.length := Nat.mul_pos (by omega) hPower
  exact Nat.lt_of_lt_of_le hProduct hLow

/-- Only the minus zero is negative and zero. -/
theorem eq_minusZero_iff (h : l.Spells literal) (hWhole : l.IsWhole) :
    literal = minusZero ↔ l.negative = true ∧ value l.whole = 0 := by
  constructor
  · rintro rfl
    have hRead := ofText?_of_spells h
    obtain rfl : integer true [Digit.zero] = l := Option.some.inj hRead
    exact ⟨rfl, rfl⟩
  · rintro ⟨hNegative, hZero⟩
    obtain ⟨hFormed, -, exponent, hExponent, rfl⟩ := h
    obtain ⟨hFraction, hNone⟩ := hWhole
    rw [hNone] at hExponent
    cases hExponent
    rw [hFraction, hNegative]
    obtain ⟨d, rest, hDigits⟩ := List.exists_cons_of_ne_nil (ne_nil_of_wellFormedWhole hFormed)
    rw [hDigits] at hFormed hZero ⊢
    have hFirst : d.val = 0 := by
      by_contra hNonzero
      have hPositive := value_pos hNonzero rest
      omega
    cases rest with
    | nil =>
      obtain rfl : d = Digit.zero := Fin.ext hFirst
      rfl
    | cons next rest =>
      have hNonzero : (d.val != 0) = true := hFormed
      rw [hFirst] at hNonzero
      cases hNonzero

/-! ## What a literal means -/

theorem value?_eq_int_iff {k : Integer} : l.value? = some (.int k) ↔ l.integer? = some k := by
  rw [value?]
  cases hInteger : l.integer? with
  | none => simp
  | some found => simp

/-- A literal means an integer if it denotes it, unless it is the minus zero. -/
theorem value?_eq_int_iff_of_spells (h : l.Spells literal) {k : Integer} :
    l.value? = some (.int k) ↔ l.IsWhole ∧ literal ≠ minusZero ∧ k.value = l.toInt := by
  rw [value?_eq_int_iff, integer?_eq_some_iff]
  constructor
  · rintro ⟨hWhole, hZero, hValue⟩
    rw [← eq_minusZero_iff h hWhole] at hZero
    exact ⟨hWhole, hZero, hValue⟩
  · rintro ⟨hWhole, hZero, hValue⟩
    rw [Ne, eq_minusZero_iff h hWhole] at hZero
    exact ⟨hWhole, hZero, hValue⟩

theorem value?_ne_null : l.value? ≠ some .null := by
  rw [value?]
  cases l.integer? with
  | none => simp
  | some k => simp

/-- What is kept exactly is never too large for a double. -/
theorem value?_eq_none_iff : l.value? = none ↔ l.magnitude? = none := by
  rw [value?]
  cases hInteger : l.integer? with
  | none => simp
  | some k =>
    obtain ⟨hWhole, -, hValue⟩ := integer?_eq_some_iff.1 hInteger
    have hSmall : value l.whole ≤ 179 * 10 ^ 306 := by
      have hLow := k.low
      have hHigh := k.high
      have hRoom : 0x10000000000000000 ≤ 179 * 10 ^ 306 := by decide +kernel
      rw [← natAbs_toInt, ← hValue]
      generalize 179 * 10 ^ 306 = bound at *
      omega
    have hSome := isSome_magnitude? l.negative hSmall
    rw [← eq_integer hWhole] at hSome
    constructor
    · intro hNone
      cases hNone
    · intro hNone
      rw [hNone] at hSome
      cases hSome

end NumberLiteral

/-! ## Fields of words -/

variable {α : Type} {type : FieldType α} {toInt : α → Int} {low high : Int}

/-- Values of the type are the integers of a range, and are written as such. -/
structure FieldType.Words (type : FieldType α) (toInt : α → Int) (low high : Int) : Prop where
  exact : type.Exact
  write_eq : ∀ a, ∃ k : Integer, type.write a = .int k ∧ k.value = toInt a
  range : ∀ n, (∃ a, toInt a = n) ↔ low ≤ n ∧ n ≤ high

theorem words_int32 : FieldType.int32.Words Int32.toInt (-0x80000000) 0x7FFFFFFF where
  exact := FieldType.exact_int32
  write_eq a := ⟨Integer.ofInt32 a, rfl, rfl⟩
  range n := by
    constructor
    · rintro ⟨a, rfl⟩
      have hLow := a.le_toInt
      have hHigh := a.toInt_lt
      omega
    · rintro ⟨hLow, hHigh⟩
      exact ⟨Int32.ofInt n, Int32.toInt_ofInt_of_le (by omega) (by omega)⟩

theorem words_uint32 : FieldType.uint32.Words (fun a => a.toNat) 0 0xFFFFFFFF where
  exact := FieldType.exact_uint32
  write_eq a := ⟨Integer.ofUInt32 a, rfl, rfl⟩
  range n := by
    constructor
    · rintro ⟨a, rfl⟩
      have hHigh := a.toNat_lt
      omega
    · rintro ⟨hLow, hHigh⟩
      refine ⟨UInt32.ofNat n.toNat, ?_⟩
      have hWord : n.toNat < 4294967296 := by omega
      show ((UInt32.ofNat n.toNat).toNat : Int) = n
      rw [UInt32.toNat_ofNat_of_lt' hWord]
      omega

section Literal

variable {l : NumberLiteral} {literal : List Char}

namespace Object

/-- The one member of a text is read unless the number is too large. -/
theorem require_memberText (gaps : Gaps) (name : String) (hSpells : l.Spells literal) :
    (Object.parse (memberText gaps name literal) >>= fun o => o.require type name) =
      match l.value? with
      | some value => type.readAs name value
      | none => .error .notJson := by
  rw [Object.parse_memberText gaps name hSpells]
  cases l.value? with
  | none => rfl
  | some value =>
    have hFound : Object.find? ⟨[(name, value)]⟩ name = some value := if_pos rfl
    show Object.require ⟨[(name, value)]⟩ type name = type.readAs name value
    rw [Object.require, hFound]

/-- A field that may be missing is read from a literal as one that may not. -/
theorem get?_memberText (type : FieldType α) (gaps : Gaps) (name : String)
    (hSpells : l.Spells literal) :
    (Object.parse (memberText gaps name literal) >>= fun o => o.get? type name) =
      (Object.parse (memberText gaps name literal) >>= fun o => o.require type name).map some := by
  rw [require_memberText gaps name hSpells, parse_memberText gaps name hSpells]
  cases hValue : l.value? with
  | none => rfl
  | some value =>
    have hNull : value ≠ .null := fun h => NumberLiteral.value?_ne_null (h ▸ hValue)
    exact Demand.get?_of_value (if_pos rfl) hNull

end Object

/-- The result of reading a field from a literal is the integer that the literal denotes, or an
error if there is none in the range. -/
structure Reads (l : NumberLiteral) (literal : List Char) (toInt : α → Int) (low high : Int)
    (refusal : ConfigurationError) (result : Except ConfigurationError α) : Prop where
  ok_iff : ∀ a, result = .ok a ↔
    l.IsWhole ∧ literal ≠ NumberLiteral.minusZero ∧ toInt a = l.toInt
  exists_iff : (∃ a, result = .ok a) ↔
    l.IsWhole ∧ literal ≠ NumberLiteral.minusZero ∧ low ≤ l.toInt ∧ l.toInt ≤ high
  error_eq : ∀ e, result = .error e → e = if l.magnitude? = none then .notJson else refusal

theorem FieldType.Words.reads (h : type.Words toInt low high) (gaps : Gaps) (name : String)
    (hSpells : l.Spells literal) :
    Reads l literal toInt low high (.wrongType name type.shape)
      (Object.parse (memberText gaps name literal) >>= fun o => o.require type name) := by
  rw [Object.require_memberText gaps name hSpells]
  have hOk (a : α) : (match l.value? with
      | some value => type.readAs name value
      | none => .error .notJson) = .ok a ↔
        l.IsWhole ∧ literal ≠ NumberLiteral.minusZero ∧ toInt a = l.toInt := by
    obtain ⟨k, hWrite, hValue⟩ := h.write_eq a
    rw [← hValue, ← NumberLiteral.value?_eq_int_iff_of_spells hSpells, ← hWrite]
    cases l.value? with
    | none => simp
    | some value => simp [FieldType.readAs_ok_iff h.exact]
  refine ⟨hOk, ?_, ?_⟩
  · rw [← h.range]
    constructor
    · rintro ⟨a, hRead⟩
      obtain ⟨hWhole, hZero, hDenoted⟩ := (hOk a).1 hRead
      exact ⟨hWhole, hZero, a, hDenoted⟩
    · rintro ⟨hWhole, hZero, a, hDenoted⟩
      exact ⟨a, (hOk a).2 ⟨hWhole, hZero, hDenoted⟩⟩
  · intro e hError
    by_cases hLarge : l.magnitude? = none
    · rw [if_pos hLarge]
      rw [NumberLiteral.value?_eq_none_iff.2 hLarge] at hError
      exact (Except.error.inj hError).symm
    · rw [if_neg hLarge]
      cases hValue : l.value? with
      | none => exact absurd (NumberLiteral.value?_eq_none_iff.1 hValue) hLarge
      | some value =>
        rw [hValue] at hError
        exact ((FieldType.readAs_error_iff h.exact).1 hError).2

end Literal

/-! ## What a text says -/

/-- The last member of this name is a literal that denotes the integer. -/
def Denotes (text name : String) (n : Int) : Prop :=
  ∃ l, HoldsLiteral text name l ∧ l.IsWhole ∧ l.toInt = n

section Denotes

variable {text name : String} {o : Object} {a : α}

theorem denotes_of_find? (hParse : Object.parse text = .ok o) {k : Integer}
    (h : o.find? name = some (.int k)) : Denotes text name k.value := by
  obtain ⟨l, hLiteral, hInteger⟩ := exists_holdsLiteral hParse h
  obtain ⟨hWhole, -, hValue⟩ := NumberLiteral.integer?_eq_some_iff.1 hInteger
  exact ⟨l, hLiteral, hWhole, hValue.symm⟩

theorem denotes_of_write (hType : type.Words toInt low high) (hParse : Object.parse text = .ok o)
    (h : o.find? name = some (type.write a)) : Denotes text name (toInt a) := by
  obtain ⟨k, hWrite, hValue⟩ := hType.write_eq a
  rw [hWrite] at h
  rw [← hValue]
  exact denotes_of_find? hParse h

theorem denotes_of_require (hType : type.Words toInt low high) (hParse : Object.parse text = .ok o)
    (h : o.require type name = .ok a) : Denotes text name (toInt a) :=
  denotes_of_write hType hParse ((Object.require_ok_iff hType.exact).1 h)

theorem denotes_of_get? (hType : type.Words toInt low high) (hParse : Object.parse text = .ok o)
    (h : o.get? type name = .ok (some a)) : Denotes text name (toInt a) :=
  denotes_of_write hType hParse ((Demand.get?_ok_iff hType.exact).1 h)

/-- Where nothing is read there is no literal. -/
theorem not_holdsLiteral (hParse : Object.parse text = .ok o) (h : o.get? type name = .ok none)
    (l : NumberLiteral) : ¬ HoldsLiteral text name l := by
  intro hLiteral
  obtain ⟨value, hValue, hFound⟩ := find?_of_holdsLiteral hParse hLiteral
  have hNull : value ≠ .null := fun h => NumberLiteral.value?_ne_null (h ▸ hValue)
  rw [Demand.get?_of_value hFound hNull] at h
  cases hRead : type.readAs name value with
  | error e =>
    rw [hRead] at h
    cases h
  | ok a =>
    rw [hRead] at h
    cases h

end Denotes

end DeferredJobs
