import DeferredJobs.Proofs.Batch.Format
import DeferredJobs.Proofs.Cleanup
import DeferredJobs.Proofs.Configuration.Integer

/-!
# Integers are read exactly or refused

The retries of a batch, the counter of the cleanup job and the minutes of its window are the only
numbers of the formats. None of them is ever wrapped or cut: what was read is what its literal
denotes.

* `Batch.Retries.denotes_retries`, `Cleanup.denotes_numbers`: the numbers of a text that was read.
* `FieldType.Words.readBack`: a word that was put into an object is read from it and from its text.
* `integers_exact`: all of it together.
-/

namespace DeferredJobs

theorem Batch.Retries.denotes_retries {idsField text : String} {b : Retries}
    (h : (formatOf idsField).parse text = .ok b) : Denotes text "retries" b.retries.toInt := by
  obtain ⟨o, hParse, hRead⟩ := bind_eq_ok h
  obtain ⟨ids, -, hRead⟩ := bind_eq_ok hRead
  obtain ⟨retries, hRetries, hRead⟩ := bind_eq_ok hRead
  cases hRead
  exact denotes_of_require words_int32 hParse hRetries

namespace Cleanup

theorem denotes_minute {text name : String} {o : Object} {n : UInt32} {minute : Minute}
    (hParse : Object.parse text = .ok o) (hNumber : o.require .uint32 name = .ok n)
    (hMinute : Minute.ofNumber name n = .ok minute) : Denotes text name minute.val := by
  have hDenotes := denotes_of_require words_uint32 hParse hNumber
  rw [Minute.ofNumber] at hMinute
  split at hMinute
  · cases hMinute
    exact hDenotes
  · cases hMinute

/-- The numbers of a configuration are those of its text. -/
theorem denotes_numbers {text : String} {c : Cleanup} (h : format.parse text = .ok c) :
    (Denotes text "countEmptyRuns" c.countEmptyRuns.toNat ∨
      c.countEmptyRuns = 0 ∧ ∀ l, ¬ HoldsLiteral text "countEmptyRuns" l) ∧
    Denotes text "minuteFrom" c.minuteFrom.val ∧ Denotes text "minuteTo" c.minuteTo.val := by
  obtain ⟨o, hParse, hRead⟩ := bind_eq_ok h
  obtain ⟨count, hCount, hRead⟩ := bind_eq_ok hRead
  obtain ⟨due, -, hRead⟩ := bind_eq_ok hRead
  obtain ⟨first, hFirst, hRead⟩ := bind_eq_ok hRead
  obtain ⟨minuteFrom, hFrom, hRead⟩ := bind_eq_ok hRead
  obtain ⟨last, hLast, hRead⟩ := bind_eq_ok hRead
  obtain ⟨minuteTo, hTo, hRead⟩ := bind_eq_ok hRead
  cases hRead
  refine ⟨?_, denotes_minute hParse hFirst hFrom, denotes_minute hParse hLast hTo⟩
  cases count with
  | none => exact .inr ⟨rfl, not_holdsLiteral hParse hCount⟩
  | some count =>
    have hDenotes := denotes_of_get? words_uint32 hParse hCount
    exact .inl hDenotes

end Cleanup

/-- What is put under a name is read there again, in the object and in its text. -/
structure ReadBack {α : Type} (type : FieldType α) (o : Object) (name : String) (a : α) : Prop where
  require_eq : (o.put type name a).require type name = .ok a
  get?_eq : (o.put type name a).get? type name = .ok (some a)
  parse_eq : o.toJson.Storable Json.maxDepth → ∀ layout,
    Object.parse ((o.put type name a).text layout) = .ok (o.put type name a)

theorem FieldType.Words.readBack {α : Type} {type : FieldType α} {toInt : α → Int} {low high : Int}
    (h : type.Words toInt low high) (o : Object) (name : String) (a : α) :
    ReadBack type o name a where
  require_eq := Object.require_put o type name a
  get?_eq := Object.get?_put o type name a
  parse_eq hStorable layout := by
    obtain ⟨k, hWrite, -⟩ := h.write_eq a
    have hValue : (type.write a).Storable 126 := by
      rw [hWrite]
      exact Json.storable_int 126 k
    exact Object.parse_text (Object.storable_put hStorable hValue name) layout

/-- In a text with one number, integers of the range are read and all else is refused, whether for
its type or for its size. So the numbers of the formats are those of their texts, and words that are
written are read back. -/
theorem integers_exact :
    (∀ (gaps : Gaps) (name : String) (l : NumberLiteral) (literal : List Char), l.Spells literal →
      Reads l literal Int32.toInt (-0x80000000) 0x7FFFFFFF (.wrongType name .integer32)
        (Object.parse (memberText gaps name literal) >>= fun o => o.require .int32 name) ∧
      Reads l literal (fun n : UInt32 => n.toNat) 0 0xFFFFFFFF (.wrongType name .natural)
        (Object.parse (memberText gaps name literal) >>= fun o => o.require .uint32 name) ∧
      (Object.parse (memberText gaps name literal) >>= fun o => o.get? .uint32 name) =
        (Object.parse (memberText gaps name literal) >>= fun o => o.require .uint32 name).map some) ∧
    (∀ l : NumberLiteral, l.IsWhole →
      (l.toInt.natAbs ≤ 179 * 10 ^ 306 → l.magnitude? ≠ none) ∧
      (180 * 10 ^ 306 ≤ l.toInt.natAbs → l.magnitude? = none)) ∧
    (∀ (idsField text : String) (b : Batch.Retries),
      (Batch.Retries.formatOf idsField).parse text = .ok b →
        Denotes text "retries" b.retries.toInt) ∧
    (∀ (text : String) (c : Cleanup), Cleanup.format.parse text = .ok c →
      (Denotes text "countEmptyRuns" c.countEmptyRuns.toNat ∨
        c.countEmptyRuns = 0 ∧ ∀ l, ¬ HoldsLiteral text "countEmptyRuns" l) ∧
      Denotes text "minuteFrom" c.minuteFrom.val ∧ Denotes text "minuteTo" c.minuteTo.val) ∧
    (∀ (o : Object) (name : String) (n : Int32), ReadBack .int32 o name n) ∧
    ∀ (o : Object) (name : String) (n : UInt32), ReadBack .uint32 o name n := by
  refine ⟨?_, ?_, ?_, ?_, words_int32.readBack, words_uint32.readBack⟩
  · intro gaps name l literal hSpells
    exact ⟨words_int32.reads gaps name hSpells, words_uint32.reads gaps name hSpells,
      Object.get?_memberText .uint32 gaps name hSpells⟩
  · intro l hWhole
    rw [NumberLiteral.natAbs_toInt, NumberLiteral.eq_integer hWhole]
    constructor
    · intro hSmall
      exact Option.ne_none_iff_isSome.2 (NumberLiteral.isSome_magnitude? l.negative hSmall)
    · exact NumberLiteral.magnitude?_eq_none l.negative
  · intro idsField text b
    exact Batch.Retries.denotes_retries
  · intro text c
    exact Cleanup.denotes_numbers

/-- The least signed word, the minus zero, and numbers that the formats wrote. -/
theorem integers_exact_least_word :
    (Object.parse (memberText .none "retries"
      ['-', '2', '1', '4', '7', '4', '8', '3', '6', '4', '8']) >>=
        fun o => o.require .int32 "retries") = .ok (-2147483648) ∧
    (∀ a, (Object.parse (memberText .none "minuteFrom" ['-', '0']) >>=
      fun o => o.require .uint32 "minuteFrom") ≠ .ok a) ∧
    (NumberLiteral.integer true [7]).magnitude? ≠ none ∧
    Denotes (Batch.Retries.jobFormat.canonical .compact ⟨[], 5⟩) "retries" 5 ∧
    Denotes (Cleanup.format.canonical .indented {}) "minuteTo" 59 ∧
    Object.parse ((Object.empty.put .uint32 "minuteTo" 59).text .compact) =
      .ok (Object.empty.put .uint32 "minuteTo" 59) := by
  obtain ⟨hLiteral, hSize, hRetries, hCleanup, -, hReadBack⟩ := integers_exact
  have hLeast : (NumberLiteral.integer true [2, 1, 4, 7, 4, 8, 3, 6, 4, 8]).Spells _ :=
    NumberLiteral.spells_integer true rfl
  have hZero : (NumberLiteral.integer true [0]).Spells _ := NumberLiteral.spells_integer true rfl
  refine ⟨?_, ?_, ?_, ?_, ?_, ?_⟩
  · exact ((hLiteral .none "retries" _ _ hLeast).1.ok_iff _).2 ⟨⟨rfl, rfl⟩, by decide, by decide⟩
  · intro a hRead
    obtain ⟨-, hText, -⟩ := ((hLiteral .none "minuteFrom" _ _ hZero).2.1.ok_iff a).1 hRead
    exact hText rfl
  · exact (hSize (NumberLiteral.integer true [7]) ⟨rfl, rfl⟩).1 (by decide +kernel)
  · exact hRetries _ _ _ ((Batch.Retries.lossless (by decide)).parse_canonical trivial .compact)
  · exact (hCleanup _ _ (Cleanup.lossless.parse_canonical trivial .indented)).2.2
  · exact (hReadBack Object.empty "minuteTo" 59).parse_eq (Object.storable_empty 126) .compact

end DeferredJobs
