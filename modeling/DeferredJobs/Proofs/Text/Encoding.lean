import Mathlib.Algebra.Ring.Nat
import DeferredJobs.Text.Encoding

/-!
# Texts in bytes

The encoding of a character is its number in groups of six bits. The first byte holds the highest
group above a mark that tells how many bytes follow, and each of the others holds one group above
0x80. So a byte below 0x80 only ever stands for a character of its own, and an encoded text can be
cut there. The marks grow with the number of bytes, which makes the order of the bytes that of the
characters.

* `decode?_eq_some_iff`: what decodes to a text is its encoding.
* `decode?_cut`: an encoded text is cut at a byte of ASCII.
* `utf8_lt_iff`, `string_lt_iff`: texts are in the order of their bytes.
-/

namespace DeferredJobs.Text

/-- The bytes of a text in UTF-8. -/
def utf8 (text : List Char) : List UInt8 :=
  text.flatMap String.utf8EncodeChar

theorem utf8_cons (c : Char) (text : List Char) :
    utf8 (c :: text) = String.utf8EncodeChar c ++ utf8 text := rfl

theorem utf8_append (text other : List Char) : utf8 (text ++ other) = utf8 text ++ utf8 other :=
  List.flatMap_append

theorem toList_toUTF8 (text : String) : text.toUTF8.data.toList = utf8 text.toList := by
  rw [String.toUTF8_eq_toByteArray, ← String.utf8Encode_toList, List.utf8Encode,
    List.toList_data_toByteArray]
  rfl

theorem eq_toUTF8_iff {bytes : ByteArray} {text : String} :
    bytes = text.toUTF8 ↔ bytes.data.toList = utf8 text.toList := by
  rw [← toList_toUTF8, Array.toList_inj]
  exact ⟨congrArg ByteArray.data, ByteArray.ext⟩

theorem fromUTF8?_toUTF8 (text : String) : String.fromUTF8? text.toUTF8 = some text := by
  rw [String.toUTF8_eq_toByteArray, String.fromUTF8?, dif_pos text.isValidUTF8]
  rfl

theorem decode?_eq_some_iff {bytes : List UInt8} {text : List Char} :
    decode? bytes = some text ↔ bytes = utf8 text := by
  constructor
  · intro h
    obtain ⟨found, hFound, rfl⟩ := Option.map_eq_some_iff.1 h
    rw [String.fromUTF8?] at hFound
    split at hFound
    · rename_i hValid
      cases hFound
      exact toList_toUTF8 (String.fromUTF8 ⟨bytes.toArray⟩ hValid)
    · cases hFound
  · rintro rfl
    have hBytes : ⟨(utf8 text).toArray⟩ = (String.ofList text).toUTF8 := by
      rw [eq_toUTF8_iff, String.toList_ofList]
    rw [decode?, hBytes, fromUTF8?_toUTF8, Option.map_some, String.toList_ofList]

theorem decode?_utf8 (text : List Char) : decode? (utf8 text) = some text :=
  decode?_eq_some_iff.2 rfl

/-! ## Groups of six bits -/

/-- A number in groups of six bits: the highest group above the mark, and one byte for each other. -/
def sixes (mark : Nat) : Nat → Nat → List UInt8
  | 0, n => [UInt8.ofNat (mark + n)]
  | count + 1, n => sixes mark count (n / 64) ++ [UInt8.ofNat (n % 64 + 0x80)]

/-- The mark of a character's first byte, how many bytes follow it, and the characters it is for. -/
inductive Width : Nat → Nat → Nat → Prop
  | one {n : Nat} (hHigh : n < 0x80) : Width 0 0 n
  | two {n : Nat} (hLow : 0x80 ≤ n) (hHigh : n < 0x800) : Width 0xC0 1 n
  | three {n : Nat} (hLow : 0x800 ≤ n) (hHigh : n < 0x10000) : Width 0xE0 2 n
  | four {n : Nat} (hLow : 0x10000 ≤ n) (hHigh : n < 0x110000) : Width 0xF0 3 n

theorem toNat_lt (c : Char) : c.val.toNat < 0x110000 := by
  rcases c.valid with h | ⟨-, h⟩ <;> omega

theorem exists_width (c : Char) :
    ∃ mark count, Width mark count c.val.toNat ∧
      String.utf8EncodeChar c = sixes mark count c.val.toNat := by
  have hBound := toNat_lt c
  unfold String.utf8EncodeChar
  generalize c.val.toNat = n at hBound ⊢
  dsimp only
  split
  · exact ⟨0, 0, .one (by omega), by simp [sixes]⟩
  split
  · refine ⟨0xC0, 1, .two (by omega) (by omega), ?_⟩
    rw [Nat.mod_eq_of_lt (by omega)]
    simp [sixes, Nat.add_comm]
  split
  · refine ⟨0xE0, 2, .three (by omega) (by omega), ?_⟩
    rw [Nat.mod_eq_of_lt (show n / 4096 < 0x10 by omega)]
    simp [sixes, Nat.add_comm, Nat.div_div_eq_div_mul]
  · refine ⟨0xF0, 3, .four (by omega) (by omega), ?_⟩
    rw [Nat.mod_eq_of_lt (show n / 262144 < 0x08 by omega)]
    simp [sixes, Nat.add_comm, Nat.div_div_eq_div_mul]

theorem ofNat_lt_ofNat {m n : Nat} (h : m < n) (hByte : n < 256) : UInt8.ofNat m < UInt8.ofNat n := by
  rw [UInt8.lt_iff_toNat_lt, UInt8.toNat_ofNat_of_lt' (Nat.lt_trans h hByte),
    UInt8.toNat_ofNat_of_lt' hByte]
  exact h

theorem le_ofNat {n : Nat} (h : 0x80 ≤ n) (hByte : n < 256) : 0x80 ≤ UInt8.ofNat n := by
  rw [UInt8.le_iff_toNat_le, UInt8.toNat_ofNat_of_lt' hByte]
  exact h

/-- The highest group comes first, and the bytes after it are no ASCII. -/
theorem exists_sixes_eq_cons (mark count n : Nat) :
    ∃ following, sixes mark count n = UInt8.ofNat (mark + n / 64 ^ count) :: following ∧
      ∀ byte ∈ following, 0x80 ≤ byte := by
  induction count generalizing n with
  | zero => exact ⟨[], by simp [sixes], List.forall_mem_nil _⟩
  | succ count ih =>
    obtain ⟨following, hEq, hHigh⟩ := ih (n / 64)
    refine ⟨following ++ [UInt8.ofNat (n % 64 + 0x80)], ?_, ?_⟩
    · rw [sixes, hEq, Nat.div_div_eq_div_mul, ← Nat.pow_succ', List.cons_append]
    · refine List.forall_mem_append.2 ⟨hHigh, List.forall_mem_singleton.2 ?_⟩
      exact le_ofNat (Nat.le_add_left _ _) (by omega)

theorem Width.first_lt {mark count n : Nat} (h : Width mark count n) :
    mark + n / 64 ^ count < 256 := by
  cases h <;> simp only [Nat.reducePow] <;> omega

/-! ## ASCII -/

theorem encodeChar_of_ascii {c : Char} (h : c.toNat < 0x80) :
    String.utf8EncodeChar c = [UInt8.ofNat c.toNat] := by
  obtain ⟨mark, count, hWidth, hEncode⟩ := exists_width c
  have hSame : c.val.toNat = c.toNat := rfl
  rw [hEncode, hSame]
  cases hWidth with
  | one hHigh => rw [sixes, Nat.zero_add]
  | two hLow | three hLow | four hLow => omega

/-- Every byte of a character beyond ASCII is one beyond ASCII. -/
theorem le_of_mem_encodeChar {c : Char} (h : 0x80 ≤ c.toNat) :
    ∀ byte ∈ String.utf8EncodeChar c, 0x80 ≤ byte := by
  obtain ⟨mark, count, hWidth, hEncode⟩ := exists_width c
  obtain ⟨following, hSixes, hFollowing⟩ := exists_sixes_eq_cons mark count c.val.toNat
  have hFirst := hWidth.first_lt
  rw [hEncode, hSixes]
  refine List.forall_mem_cons.2 ⟨le_ofNat ?_ hFirst, hFollowing⟩
  cases hWidth with
  | one hHigh =>
    have hSame : c.val.toNat = c.toNat := rfl
    omega
  | two | three | four => omega

theorem ofUInt8_eq {byte : UInt8} {c : Char} (h : UInt8.ofNat c.toNat = byte) (hc : c.toNat < 0x80) :
    Char.ofUInt8 byte = c := by
  subst h
  refine Char.toNat_inj.1 ?_
  show (UInt8.ofNat c.toNat).toUInt32.toNat = c.toNat
  rw [UInt8.toNat_toUInt32, UInt8.toNat_ofNat_of_lt' (Nat.lt_trans hc (by decide))]

theorem encodeChar_ofUInt8 {byte : UInt8} (h : byte < 0x80) :
    String.utf8EncodeChar (Char.ofUInt8 byte) = [byte] := by
  have hNumber : (Char.ofUInt8 byte).toNat = byte.toNat := UInt8.toNat_toUInt32 byte
  have hAscii : byte.toNat < 0x80 := UInt8.lt_iff_toNat_lt.1 h
  rw [encodeChar_of_ascii (by omega), hNumber, UInt8.ofNat_toNat]

/-- The text before a byte of ASCII, its character, and the text after it. -/
theorem exists_of_utf8_eq_append {text : List Char} {before after : List UInt8} {byte : UInt8}
    (hByte : byte < 0x80) (h : utf8 text = before ++ byte :: after) :
    ∃ first rest, text = first ++ Char.ofUInt8 byte :: rest ∧ utf8 first = before ∧
      utf8 rest = after := by
  induction text generalizing before with
  | nil => exact absurd h.symm (by simp [utf8])
  | cons c text ih =>
    rw [utf8_cons] at h
    by_cases hAscii : c.toNat < 0x80
    · rw [encodeChar_of_ascii hAscii] at h
      cases before with
      | nil =>
        obtain ⟨hSame, rfl⟩ := List.cons.inj h
        exact ⟨[], text, by rw [ofUInt8_eq hSame hAscii, List.nil_append], rfl, rfl⟩
      | cons first before =>
        obtain ⟨rfl, hRest⟩ := List.cons.inj h
        obtain ⟨first, rest, rfl, rfl, rfl⟩ := ih hRest
        exact ⟨c :: first, rest, rfl, by rw [utf8_cons, encodeChar_of_ascii hAscii]; rfl, rfl⟩
    · -- The bytes of this character all stand before the byte, which is none of them.
      have hHigh := le_of_mem_encodeChar (Nat.le_of_not_lt hAscii)
      rcases List.append_eq_append_iff.1 h with ⟨between, rfl, hRest⟩ | ⟨between, hEncode, hRest⟩
      · obtain ⟨first, rest, rfl, rfl, rfl⟩ := ih hRest
        exact ⟨c :: first, rest, rfl, utf8_cons c first, rfl⟩
      · cases between with
        | nil =>
          have hNext : utf8 text = [] ++ byte :: after := hRest.symm
          obtain ⟨first, rest, rfl, hFirst, rfl⟩ := ih hNext
          refine ⟨c :: first, rest, rfl, ?_, rfl⟩
          rw [utf8_cons, hFirst, hEncode, List.append_nil, List.append_nil]
        | cons other between =>
          obtain ⟨rfl, -⟩ := List.cons.inj hRest
          have hBeyond := hHigh byte (by rw [hEncode]; simp)
          exact absurd hByte (UInt8.not_lt.2 hBeyond)

/-- Both sides of a byte of ASCII are decoded apart. -/
theorem decode?_cut {byte : UInt8} (hByte : byte < 0x80) (before after : List UInt8) :
    decode? (before ++ byte :: after) =
      (decode? before).bind fun first =>
        (decode? after).map fun rest => first ++ Char.ofUInt8 byte :: rest := by
  refine Option.ext fun text => ?_
  simp only [Option.bind_eq_some_iff, Option.map_eq_some_iff, decode?_eq_some_iff]
  constructor
  · intro h
    obtain ⟨first, rest, rfl, rfl, rfl⟩ := exists_of_utf8_eq_append hByte h.symm
    exact ⟨first, rfl, rest, rfl, rfl⟩
  · rintro ⟨first, rfl, rest, rfl, rfl⟩
    rw [utf8_append, utf8_cons, encodeChar_ofUInt8 hByte]
    rfl

/-- A byte beyond ASCII begins a character beyond ASCII. -/
theorem exists_of_decode?_beyond {byte : UInt8} {bytes : List UInt8} {text : List Char}
    (hByte : ¬ byte < 0x80) (h : decode? (byte :: bytes) = some text) :
    ∃ c rest, text = c :: rest ∧ 0x80 ≤ c.toNat := by
  have hBytes := decode?_eq_some_iff.1 h
  cases text with
  | nil => cases hBytes
  | cons c rest =>
    refine ⟨c, rest, rfl, Nat.le_of_not_lt fun hAscii => ?_⟩
    rw [utf8_cons, encodeChar_of_ascii hAscii] at hBytes
    obtain ⟨rfl, -⟩ := List.cons.inj hBytes
    refine hByte ?_
    rw [UInt8.lt_iff_toNat_lt, UInt8.toNat_ofNat_of_lt' (Nat.lt_trans hAscii (by decide))]
    exact hAscii

/-! ## The order of texts -/

theorem sixes_append_lt {mark count m n : Nat} (h : m < n) (hFirst : mark + n / 64 ^ count < 256)
    (after afterOther : List UInt8) :
    sixes mark count m ++ after < sixes mark count n ++ afterOther := by
  induction count generalizing m n after afterOther with
  | zero =>
    rw [Nat.pow_zero, Nat.div_one] at hFirst
    exact List.cons_lt_cons_iff.2 (.inl (ofNat_lt_ofNat (Nat.add_lt_add_left h mark) hFirst))
  | succ count ih =>
    rw [sixes, sixes, List.append_assoc, List.append_assoc]
    rcases Nat.lt_or_eq_of_le (Nat.div_le_div_right (Nat.le_of_lt h) : m / 64 ≤ n / 64) with
      hLess | hSame
    · rw [Nat.pow_succ', ← Nat.div_div_eq_div_mul] at hFirst
      exact ih hLess hFirst _ _
    · rw [hSame]
      refine List.append_left_lt (List.cons_lt_cons_iff.2 (.inl ?_))
      exact ofNat_lt_ofNat (by omega) (by omega)

/-- A larger character has more bytes and a larger mark, or else the same. -/
theorem Width.same_or_first_lt {mark otherMark count otherCount m n : Nat}
    (hm : Width mark count m) (hn : Width otherMark otherCount n) (h : m < n) :
    (mark = otherMark ∧ count = otherCount) ∨
      mark + m / 64 ^ count < otherMark + n / 64 ^ otherCount := by
  cases hm <;> cases hn <;> simp <;> omega

theorem encodeChar_append_lt {c d : Char} (h : c < d) (after afterOther : List UInt8) :
    String.utf8EncodeChar c ++ after < String.utf8EncodeChar d ++ afterOther := by
  have hLess : c.val.toNat < d.val.toNat := h
  obtain ⟨mark, count, hWidth, hEncode⟩ := exists_width c
  obtain ⟨otherMark, otherCount, hOtherWidth, hOtherEncode⟩ := exists_width d
  rw [hEncode, hOtherEncode]
  rcases hWidth.same_or_first_lt hOtherWidth hLess with ⟨rfl, rfl⟩ | hFirst
  · exact sixes_append_lt hLess hOtherWidth.first_lt after afterOther
  · obtain ⟨following, hSixes, -⟩ := exists_sixes_eq_cons mark count c.val.toNat
    obtain ⟨otherFollowing, hOtherSixes, -⟩ :=
      exists_sixes_eq_cons otherMark otherCount d.val.toNat
    rw [hSixes, hOtherSixes]
    exact List.cons_lt_cons_iff.2 (.inl (ofNat_lt_ofNat hFirst hOtherWidth.first_lt))

theorem utf8_lt {text other : List Char} (h : text < other) : utf8 text < utf8 other := by
  induction text generalizing other with
  | nil =>
    cases other with
    | nil => exact absurd h (List.lt_irrefl _)
    | cons d other =>
      obtain ⟨first, following, hEncode⟩ :=
        List.exists_cons_of_ne_nil (String.utf8EncodeChar_ne_nil (c := d))
      rw [utf8_cons, hEncode]
      exact List.nil_lt_cons _ _
  | cons c text ih =>
    cases other with
    | nil => exact absurd h (List.not_lt_nil _)
    | cons d other =>
      rw [utf8_cons, utf8_cons]
      rcases List.cons_lt_cons_iff.1 h with hLess | ⟨rfl, hRest⟩
      · exact encodeChar_append_lt hLess _ _
      · exact List.append_left_lt (ih hRest)

theorem utf8_lt_iff {text other : List Char} : utf8 text < utf8 other ↔ text < other := by
  refine ⟨fun h => ?_, utf8_lt⟩
  rcases Std.lt_trichotomy text other with hLess | rfl | hGreater
  · exact hLess
  · exact absurd h (List.lt_irrefl _)
  · exact absurd (utf8_lt hGreater) (List.lt_asymm h)

/-- Texts are in the order of their bytes. -/
theorem string_lt_iff {text other : String} :
    text < other ↔ text.toUTF8.data.toList < other.toUTF8.data.toList := by
  rw [toList_toUTF8, toList_toUTF8, utf8_lt_iff]
  rfl

end DeferredJobs.Text
