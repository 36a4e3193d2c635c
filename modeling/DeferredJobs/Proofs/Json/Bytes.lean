import DeferredJobs.Configuration.Format
import DeferredJobs.Proofs.Text.Encoding

/-!
# Bytes are read as the text that they encode

The reader of bytes never sees a text as a whole: it decodes what stands between two bytes of ASCII,
and only in strings. It answers what the reader of texts answers, because an encoding can be cut at
ASCII and because outside strings no character beyond ASCII is part of any token.

* `ByteScanner.run?_bind_close?`: the tokens of bytes, from any place of the reading.
* `Json.ofBytes?_eq`: the value of bytes is that of the text that they encode, if there is one.
* `Json.called_of_ne`: the messages of values that are no objects.
* `Object.parseBytes_exact`: every answer to bytes.
-/

namespace DeferredJobs

open Text

/-! ## Characters beyond ASCII -/

namespace Scanner

section Beyond

variable {c : Char} (h : 0x80 ≤ c.toNat)
include h

theorem ne_of_beyond {ascii : Char} (hAscii : ascii.toNat < 0x80) : c ≠ ascii := by
  rintro rfl
  exact Nat.not_lt_of_le h hAscii

theorem isLower_of_beyond : c.isLower = false := by
  refine Bool.eq_false_iff.2 fun hLower => ?_
  have hRange : (decide (c.val ≥ 'a'.val) && decide (c.val ≤ 'z'.val)) = true := hLower
  have hLast := UInt32.le_iff_toNat_le.1 (of_decide_eq_true (Bool.and_eq_true_iff.1 hRange).2)
  exact absurd (Nat.le_trans h hLast) (by decide)

theorem isDigit_of_beyond : c.isDigit = false := by
  refine Bool.eq_false_iff.2 fun hDigit => ?_
  have hRange : (decide (c.val ≥ '0'.val) && decide (c.val ≤ '9'.val)) = true := hDigit
  have hLast := UInt32.le_iff_toNat_le.1 (of_decide_eq_true (Bool.and_eq_true_iff.1 hRange).2)
  exact absurd (Nat.le_trans h hLast) (by decide)

theorem isNumeric_of_beyond : isNumeric c = false := by
  simp only [isNumeric, isDigit_of_beyond h, Bool.false_or, Bool.or_eq_false_iff,
    beq_eq_false_iff_ne]
  exact ⟨⟨⟨⟨ne_of_beyond h (by decide), ne_of_beyond h (by decide)⟩, ne_of_beyond h (by decide)⟩,
    ne_of_beyond h (by decide)⟩, ne_of_beyond h (by decide)⟩

theorem start?_of_beyond (tokens : List Token) : start? tokens c = none := by
  have hSpace : isSpace c = false := by
    simp only [isSpace, Bool.or_eq_false_iff, beq_eq_false_iff_ne]
    exact ⟨⟨⟨ne_of_beyond h (by decide), ne_of_beyond h (by decide)⟩, ne_of_beyond h (by decide)⟩,
      ne_of_beyond h (by decide)⟩
  have hQuote : c ≠ '"' := ne_of_beyond h (by decide)
  have hMinus : (c == '-') = false := beq_eq_false_iff_ne.2 (ne_of_beyond h (by decide))
  have hPunctuation : punctuation? c = none := by
    unfold punctuation?
    split
    case h_7 => rfl
    all_goals exact absurd h (by decide)
  simp only [start?, hSpace, hQuote, isDigit_of_beyond h, hMinus, isLower_of_beyond h, hPunctuation,
    Bool.or_self, Bool.false_eq_true, if_false, Option.map_none]

/-- Only a string has characters beyond ASCII. -/
theorem step?_of_beyond {s : Scanner} (hMode : ∀ pieces, s.mode ≠ .quoted pieces) :
    s.step? c = none := by
  have hStart (tokens : Option (List Token)) : (tokens >>= fun done => start? done c) = none := by
    cases tokens with
    | none => rfl
    | some done => exact start?_of_beyond h done
  obtain ⟨mode, tokens⟩ := s
  cases mode with
  | between => exact start?_of_beyond h tokens
  | number run =>
    simp only [step?, isNumeric_of_beyond h, Bool.false_eq_true, if_false]
    exact hStart _
  | word run =>
    simp only [step?, isLower_of_beyond h, Bool.false_eq_true, if_false]
    exact hStart _
  | quoted pieces => exact absurd rfl (hMode pieces)
  | escape pieces =>
    have hShort : Quoted.shortEscape? c = none := by
      unfold Quoted.shortEscape?
      split
      case h_9 => rfl
      all_goals exact absurd h (by decide)
    have hUnit : c ≠ 'u' := ne_of_beyond h (by decide)
    simp only [step?, hUnit, if_false, hShort, Option.map_none]
  | unit pieces missing code =>
    have hBeyond {last : Char} (hLast : last.toNat < 0x80) : ¬ c ≤ last := by
      rw [Char.le_def, UInt32.le_iff_toNat_le]
      exact Nat.not_le_of_lt (Nat.lt_of_lt_of_le hLast h)
    have hHex : Quoted.hexValue? c = none := by
      rw [Quoted.hexValue?, if_neg fun hDigit => hBeyond (by decide) hDigit.2,
        if_neg fun hSmall => hBeyond (by decide) hSmall.2,
        if_neg fun hCapital => hBeyond (by decide) hCapital.2]
    simp only [step?, hHex, Option.map_none]

end Beyond

end Scanner

/-! ## Tokens -/

theorem Scanner.run?_eq_bind (s : Scanner) (c : Char) (rest : List Char) :
    s.run? (c :: rest) = (s.step? c).bind (·.run? rest) := by
  rw [run?]
  cases s.step? c <;> rfl

namespace ByteScanner

theorem run?_eq_bind (s : ByteScanner) (byte : UInt8) (rest : List UInt8) :
    s.run? (byte :: rest) = (s.step? byte).bind (·.run? rest) := by
  rw [run?]
  cases s.step? byte <;> rfl

/-- A byte of ASCII is read after the characters that are pending before it. -/
theorem step?_ascii {byte : UInt8} (hByte : byte < 0x80) (s : Scanner) (pending : List UInt8) :
    step? ⟨s, pending⟩ byte = (decode? pending.reverse).bind fun text =>
      (s.run? text).bind fun scanner =>
        (scanner.step? (Char.ofUInt8 byte)).map fun next => ⟨next, []⟩ := by
  rw [step?, if_pos hByte, flush?]
  dsimp only
  cases decode? pending.reverse with
  | none => rfl
  | some text =>
    rw [Option.bind_some, Option.bind_some]
    cases s.run? text with
    | none => rfl
    | some scanner =>
      rw [Option.bind_eq_bind, Option.bind_some, Option.bind_some]
      cases scanner.step? (Char.ofUInt8 byte) <;> rfl

/-- What is read from bytes is what is read from the text that they encode together with the bytes
that are pending. Bytes are only pending in a string. -/
theorem run?_bind_close? (s : Scanner) (pending : List UInt8)
    (hPending : pending ≠ [] → ∃ pieces, s.mode = .quoted pieces) (bytes : List UInt8) :
    (run? ⟨s, pending⟩ bytes).bind close? =
      (decode? (pending.reverse ++ bytes)).bind fun text => (s.run? text).bind Scanner.close? := by
  induction bytes generalizing s pending with
  | nil =>
    rw [List.append_nil]
    show (flush? ⟨s, pending⟩).bind Scanner.close? = _
    rw [flush?, Option.bind_assoc]
  | cons byte bytes ih =>
    rw [run?_eq_bind]
    by_cases hByte : byte < 0x80
    · rw [step?_ascii hByte, decode?_cut hByte]
      cases decode? pending.reverse with
      | none => rfl
      | some first =>
        simp only [Option.bind_some, Option.bind_map, Function.comp_def, Scanner.run?_append,
          Scanner.run?_eq_bind]
        cases s.run? first with
        | none => exact (Option.bind_fun_none _).symm
        | some scanner =>
          simp only [Option.bind_some]
          cases scanner.step? (Char.ofUInt8 byte) with
          | none => exact (Option.bind_fun_none _).symm
          | some next => exact ih next [] fun hSome => absurd rfl hSome
    · by_cases hMode : ∃ pieces, s.mode = .quoted pieces
      · obtain ⟨pieces, hQuoted⟩ := hMode
        have hStep : step? ⟨s, pending⟩ byte = some ⟨s, byte :: pending⟩ := by
          simp only [step?, hByte, if_false, hQuoted]
        rw [hStep, Option.bind_some, ih s (byte :: pending) fun _ => ⟨pieces, hQuoted⟩, List.reverse_cons,
          List.append_assoc, List.singleton_append]
      · -- Nothing is pending here, so the byte begins a character, and no token has it.
        have hNone : pending = [] := by
          by_contra hSome
          exact hMode (hPending hSome)
        have hOutside : ∀ pieces, s.mode ≠ .quoted pieces := fun pieces hQuoted =>
          hMode ⟨pieces, hQuoted⟩
        have hStep : step? ⟨s, pending⟩ byte = none := by
          simp only [step?, hByte, if_false]
        rw [hStep, Option.bind_none, hNone, List.reverse_nil, List.nil_append]
        cases hDecode : decode? (byte :: bytes) with
        | none => rfl
        | some text =>
          obtain ⟨c, rest, rfl, hBeyond⟩ := exists_of_decode?_beyond hByte hDecode
          rw [Option.bind_some, Scanner.run?_eq_bind, Scanner.step?_of_beyond hBeyond hOutside]
          rfl

end ByteScanner

theorem Token.ofBytes?_eq (bytes : List UInt8) :
    Token.ofBytes? bytes = (decode? bytes).bind Token.ofText? := by
  have hRun := ByteScanner.run?_bind_close? ⟨.between, []⟩ []
    (fun hPending => absurd rfl hPending) bytes
  rw [List.reverse_nil, List.nil_append] at hRun
  have hBytes : Token.ofBytes? bytes =
      ((ByteScanner.run? ⟨⟨.between, []⟩, []⟩ bytes).bind ByteScanner.close?).map List.reverse := by
    rw [ofBytes?, Option.map_bind]
    rfl
  rw [hBytes, hRun, Option.map_bind]
  cases decode? bytes with
  | none => rfl
  | some text => exact Option.map_bind

/-- The value of bytes is that of the text that they encode, if they encode one. -/
theorem Json.ofBytes?_eq (bytes : List UInt8) :
    Json.ofBytes? bytes = (decode? bytes).bind Json.ofText? := by
  rw [Json.ofBytes?, Token.ofBytes?_eq]
  cases decode? bytes <;> rfl

/-! ## Objects -/

/-- What a value other than an object is called where it is refused. -/
inductive Json.Called : Json → String → Prop
  | null : Called .null "null"
  | bool (b : Bool) : Called (.bool b) "a boolean"
  | int (n : Integer) : Called (.int n) "a number"
  | double (x : Decimal.Binary64) : Called (.double x) "a number"
  | string (text : String) : Called (.string text) "a string"
  | array (items : List Json) : Called (.array items) "an array"

theorem Json.called_of_ne {value : Json} (h : ∀ o : Object, value ≠ o.toJson) :
    ∃ found, value.Called found ∧ (ConfigurationError.notObject value.kind).message =
      "malformed configuration: expected a JSON object, found " ++ found := by
  cases value with
  | null => exact ⟨_, .null, rfl⟩
  | bool b => exact ⟨_, .bool b, rfl⟩
  | int n => exact ⟨_, .int n, rfl⟩
  | double x => exact ⟨_, .double x, rfl⟩
  | string text => exact ⟨_, .string text, rfl⟩
  | array items => exact ⟨_, .array items, rfl⟩
  | object members => exact absurd rfl (h ⟨members⟩)

theorem Json.asObject_ok_iff {value : Json} {o : Object} :
    value.asObject = .ok o ↔ value = o.toJson := by
  cases value with
  | object members =>
    obtain ⟨others⟩ := o
    simp [asObject, toObject?, Object.toJson]
  | _ => exact ⟨nofun, nofun⟩

theorem Json.asObject_of_ne {value : Json} (h : ∀ o : Object, value ≠ o.toJson) :
    value.asObject = .error (.notObject value.kind) := by
  cases value with
  | object members => exact absurd rfl (h ⟨members⟩)
  | _ => rfl

namespace Object

/-- Bytes that encode a text are read as this text. -/
theorem parseBytes_toUTF8 (text : String) : parseBytes text.toUTF8 = parse text := by
  rw [parseBytes, Json.ofBytes?_eq, toList_toUTF8, decode?_utf8, Option.bind_some, parse]

theorem parseBytes_of_not_text {bytes : ByteArray} (h : ∀ text : String, bytes ≠ text.toUTF8) :
    parseBytes bytes = .error .notJson := by
  have hDecode : decode? bytes.data.toList = none := by
    refine Option.eq_none_iff_forall_ne_some.2 fun text hText => h (String.ofList text) ?_
    rw [eq_toUTF8_iff, String.toList_ofList]
    exact decode?_eq_some_iff.1 hText
  rw [parseBytes, Json.ofBytes?_eq, hDecode]
  rfl

theorem parse_of_value {text : String} {value : Json} (h : Json.ofText? text.toList = some value) :
    parse text = value.asObject := by
  rw [parse, h]

/-- Bytes are an object exactly if they encode a text that is this object. If they encode a text that
is another value, both are refused with the name of what this value is. All other bytes are refused as no JSON,
whether they encode a text or not. What is written encodes the text that is written. -/
theorem parseBytes_exact (bytes : ByteArray) :
    (∀ o, parseBytes bytes = .ok o ↔ ∃ text, bytes = text.toUTF8 ∧ parse text = .ok o) ∧
    (∀ (text : String) (value : Json), bytes = text.toUTF8 → Json.ofText? text.toList = some value →
      (∀ o : Object, value ≠ o.toJson) →
        parseBytes bytes = .error (.notObject value.kind) ∧
        parse text = .error (.notObject value.kind) ∧
        ∃ found, value.Called found ∧ (ConfigurationError.notObject value.kind).message =
          "malformed configuration: expected a JSON object, found " ++ found) ∧
    ((∀ text : String, bytes = text.toUTF8 → Json.ofText? text.toList = none) →
      parseBytes bytes = .error .notJson) ∧
    ∀ (o : Object) (layout : Layout), o.bytes layout = (o.text layout).toUTF8 := by
  refine ⟨fun o => ⟨fun h => ?_, ?_⟩, ?_, fun hNone => ?_, fun o layout => rfl⟩
  · by_cases hText : ∃ text : String, bytes = text.toUTF8
    · obtain ⟨text, rfl⟩ := hText
      exact ⟨text, rfl, (parseBytes_toUTF8 text).symm.trans h⟩
    · rw [parseBytes_of_not_text fun text hBytes => hText ⟨text, hBytes⟩] at h
      cases h
  · rintro ⟨text, rfl, hParse⟩
    exact (parseBytes_toUTF8 text).trans hParse
  · rintro text value rfl hValue hOther
    have hParse : parse text = .error (.notObject value.kind) := by
      rw [parse_of_value hValue, Json.asObject_of_ne hOther]
    exact ⟨(parseBytes_toUTF8 text).trans hParse, hParse, Json.called_of_ne hOther⟩
  · by_cases hText : ∃ text : String, bytes = text.toUTF8
    · obtain ⟨text, rfl⟩ := hText
      rw [parseBytes_toUTF8, parse, hNone text rfl]
    · exact parseBytes_of_not_text fun text hBytes => hText ⟨text, hBytes⟩

/-- A list with a character of two bytes in it, and three bytes that would encode half of a surrogate
pair, as the name of a member. -/
theorem parseBytes_exact_of_surrogate :
    (∃ e : ConfigurationError,
      parseBytes ⟨#[0x5B, 0x22, 0xC3, 0xA9, 0x22, 0x5D]⟩ = .error e ∧ parse "[\"é\"]" = .error e ∧
        e.message = "malformed configuration: expected a JSON object, found an array") ∧
    parseBytes ⟨#[0x7B, 0x22, 0xED, 0xA0, 0x80, 0x22, 0x3A, 0x31, 0x7D]⟩ = .error .notJson := by
  obtain ⟨-, hOther, -⟩ := parseBytes_exact ⟨#[0x5B, 0x22, 0xC3, 0xA9, 0x22, 0x5D]⟩
  obtain ⟨-, -, hNone, -⟩ := parseBytes_exact
    ⟨#[0x7B, 0x22, 0xED, 0xA0, 0x80, 0x22, 0x3A, 0x31, 0x7D]⟩
  constructor
  · obtain ⟨hBytes, hText, found, hCalled, hMessage⟩ := hOther "[\"é\"]" (.array [.string "é"])
      (by decide +kernel) (by decide +kernel) nofun
    cases hCalled
    exact ⟨_, hBytes, hText, hMessage⟩
  · refine hNone fun text hBytes => ?_
    have hDecode := decode?_eq_some_iff.2 (eq_toUTF8_iff.1 hBytes)
    have hInvalid : decode? [0x7B, 0x22, 0xED, 0xA0, 0x80, 0x22, 0x3A, 0x31, 0x7D] = none := rfl
    cases hInvalid.symm.trans hDecode

end Object

end DeferredJobs
