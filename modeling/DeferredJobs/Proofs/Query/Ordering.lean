import DeferredJobs.Proofs.Query.Format
import DeferredJobs.Proofs.Query.OrderBy

/-!
# The ordering of a query, in either form

An object holds its ordering as an array of sort keys or, where there is no array, as an older
text. Both forms of the same clauses are read alike, the array wins over the text, and a list of
keys is only ever written as an array. So an ordering can be read from the one form and written in
the other without change.

* `SortKey.readList_clauses`: a text and an array of the same clauses are one ordering.
* `SortKey.readList_putList`: an ordering that is written replaces any other.
* `SortKey.write_read_ordering`: keys keep their variant, and nothing is lost on the way.
-/

namespace DeferredJobs.Query

/-- A clause as an item of the array; its alias has no place there. -/
def OrderBy.Clause.object (clause : OrderBy.Clause) : Object :=
  Object.empty
    |>.put .string "queryProperty" clause.column
    |>.put? .string "queryPropertyFunction" clause.function
    |>.put? .string "direction" (clause.direction.map (·.name))

theorem OrderBy.Clause.object_eq (clause : OrderBy.Clause) :
    clause.object = SortKey.format.write clause.key := by
  rfl

namespace SortKey

/-! ## Lists of keys -/

theorem readList_of_array {o : Object} {items : List Json}
    (h : o.find? "orderingProperties" = some (.array items)) :
    readList o = format.readAll "orderingProperties" items := by
  have hArray : o.get? .array "orderingProperties" = .ok (some items) := Object.get?_of_find? h
  rw [readList, hArray]
  rfl

theorem readList_of_text {o : Object} {text : String}
    (hAbsent : o.find? "orderingProperties" = none) (h : o.find? "orderBy" = some (.string text)) :
    readList o = OrderBy.parse text := by
  have hArray : o.get? .array "orderingProperties" = .ok none := Object.get?_of_find? hAbsent
  have hText : o.get? .string "orderBy" = .ok (some text) := Object.get?_of_find? h
  rw [readList, hArray]
  show (o.get? .string "orderBy" >>= _) = _
  rw [hText]
  rfl

/-- An ordering that is written replaces any other, in whichever form. -/
theorem readList_putList (o : Object) {keys : List SortKey} (h : keys ≠ []) :
    readList (putList o keys) = .ok keys := by
  have hArray : (putList o keys).find? "orderingProperties" =
      some (.array (format.writeAll keys)) := by
    rw [putList, if_neg (by simpa using h), Object.find?_put, if_pos rfl]
    rfl
  rw [readList_of_array hArray]
  exact Format.readAll_writeAll read_write "orderingProperties" keys

theorem find?_putList (o : Object) (keys : List SortKey) {name : String}
    (h : name ≠ "orderingProperties") : (putList o keys).find? name = o.find? name := by
  unfold putList
  split
  · rfl
  · rw [Object.find?_put, if_neg h]

/-- No ordering is read where none is written. -/
theorem readList_putList_empty (keys : List SortKey) :
    readList (putList .empty keys) = .ok keys := by
  cases keys with
  | nil => rfl
  | cons key rest => exact readList_putList _ (List.cons_ne_nil _ _)

/-! ## Variants -/

/-- The variant of a key is told from the name of its relation. -/
theorem isVariable_iff (key : SortKey) :
    key.isVariable = true ↔ key.relation.name? = some variableRelation := by
  obtain ⟨relation, _, _, _⟩ := key
  cases relation with
  | entity => simp [isVariable, Relation.name?]
  | variableValues => simp [isVariable, Relation.name?]
  | other name hDifferent => simp [isVariable, Relation.name?, hDifferent]

theorem relation_of_read {o : Object} {key : SortKey} (h : format.read o = .ok key) :
    o.get? .string "relation" = .ok key.relation.name? := by
  obtain ⟨relation, hRelation, h⟩ := bind_eq_ok h
  obtain ⟨_, -, h⟩ := bind_eq_ok h
  obtain ⟨_, -, h⟩ := bind_eq_ok h
  obtain ⟨_, -, h⟩ := bind_eq_ok h
  cases h
  rw [hRelation, Relation.name?_ofName?]

/-! ## Two forms -/

/-- A text and an array of the same clauses are one ordering, whatever aliases, blanks and capitals
the text is written with. Where there is an array, no text counts. -/
theorem readList_clauses :
    (∀ (clauses : List OrderBy.Clause) (pieces : List (List Char)),
      OrderBy.Spells clauses pieces →
        readList (Object.empty.put .string "orderBy"
            (String.ofList ([','].intercalate pieces))) = .ok (clauses.map (·.key)) ∧
        readList (Object.empty.put .array "orderingProperties"
            (clauses.map (·.object.toJson))) = .ok (clauses.map (·.key))) ∧
    ∀ (o : Object) (items : List Json), o.find? "orderingProperties" = some (.array items) →
      readList o = format.readAll "orderingProperties" items ∧
        ∀ value, readList (o.insert "orderBy" value) = readList o := by
  constructor
  · intro clauses pieces hSpells
    constructor
    · rw [readList_of_text (by simp) (by simp; rfl)]
      exact OrderBy.parse_of_spells hSpells
    · have hItems : clauses.map (·.object.toJson) = format.writeAll (clauses.map (·.key)) := by
        simp only [Format.writeAll, List.map_map, OrderBy.Clause.object_eq]
        rfl
      rw [hItems, readList_of_array (by simp; rfl)]
      exact Format.readAll_writeAll read_write _ _
  · intro o items hArray
    refine ⟨readList_of_array hArray, fun value => ?_⟩
    have hInserted : (o.insert "orderBy" value).find? "orderingProperties" =
        some (.array items) := by
      rw [Object.find?_insert, if_neg (by decide), hArray]
    rw [readList_of_array hInserted, readList_of_array hArray]

/-- An alias, a function, capitals and a blank piece; and a text that is none, beside an array. -/
theorem readList_clauses_mixed_case :
    readList (Object.empty.put .string "orderBy" " RES.ID_ aSC,,LOWER(RES.NAME_)\tDesc") =
      .ok [⟨.entity, some ⟨"ID_", none⟩, some .ascending, []⟩,
        ⟨.entity, some ⟨"NAME_", some "LOWER"⟩, some .descending, []⟩] ∧
    readList ((Object.empty.put .array "orderingProperties" []).insert "orderBy" (.bool true)) =
      .ok [] := by
  have hSpells : OrderBy.Spells
      [{ column := "ID_", direction := some .ascending },
        { column := "NAME_", function := some "LOWER", direction := some .descending }]
      [[' '] ++ (("RES".toList ++ '.' :: "ID_".toList) ++ ([' '] ++ "aSC".toList)) ++ [], [],
        [] ++ (("LOWER".toList ++ '(' :: (("RES".toList ++ '.' :: "NAME_".toList) ++ [')'])) ++
          (['\t'] ++ "Desc".toList)) ++ []] := by
    have hTable : OrderBy.Plain "RES".toList := by decide
    refine .clause (.padded (by decide) (.bare (.aliased _ hTable)) ?_ (by decide))
      (.blank (by decide) (.clause (.padded (by decide) (.applied _ (.aliased _ hTable)) ?_
        (by decide)) .nil))
    · exact .some .ascending (by decide) (by decide) (by decide)
    · exact .some .descending (by decide) (by decide) (by decide)
  obtain ⟨hForms, hArray⟩ := readList_clauses
  refine ⟨(hForms _ _ hSpells).1, ?_⟩
  rw [(hArray _ [] (by decide)).2]
  exact (hArray _ [] (by decide)).1

/-! ## Round trips -/

/-- The variant of a key is that of the name of its relation, and every way to a key gives it the
relation it asks for. Conditions and keys are read back. A list of keys takes the place of the
ordering of an object and of nothing else, and what is read from either form can be written. -/
theorem write_read_ordering :
    (∀ key : SortKey, key.isVariable = true ↔ key.relation.name? = some variableRelation) ∧
    (∀ (name : Option String) (column : Option Column) (direction : Option Direction)
      (conditions : List Condition),
      (SortKey.mk (Relation.ofName? name) column direction conditions).relation.name? = name) ∧
    (∀ (column : Column) (direction : Direction),
      (ofColumn column direction).relation.name? = none) ∧
    (∀ (scope : Option VariableScope) (name : String) (type : VariableType)
      (direction : Option Direction),
      (byVariable scope name type direction).relation.name? = some variableRelation) ∧
    (∀ (o : Object) (key : SortKey), format.read o = .ok key →
      o.get? .string "relation" = .ok key.relation.name?) ∧
    (∀ (text : String) (keys : List SortKey), OrderBy.parse text = .ok keys →
      ∀ key ∈ keys, key.relation.name? = none) ∧
    (∀ condition : Condition,
      Condition.format.read (Condition.format.write condition) = .ok condition) ∧
    (∀ key : SortKey, format.read (format.write key) = .ok key) ∧
    (∀ (o : Object) (keys : List SortKey), keys ≠ [] →
      readList (putList o keys) = .ok keys ∧
        ∀ name, name ≠ "orderingProperties" → (putList o keys).find? name = o.find? name) ∧
    ∀ (o : Object) (keys : List SortKey), readList o = .ok keys →
      readList (putList .empty keys) = .ok keys := by
  refine ⟨isVariable_iff, fun name _ _ _ => Relation.name?_ofName? name, fun _ _ => rfl,
    fun _ _ _ _ => rfl, fun _ _ hRead => relation_of_read hRead, ?_, Condition.read_write,
    read_write, ?_, fun _ keys _ => readList_putList_empty keys⟩
  · intro text keys hParse key hKey
    rw [OrderBy.relation_of_parse hParse key hKey]
    rfl
  · intro o keys hNonempty
    exact ⟨readList_putList o hNonempty, fun name hName => find?_putList o keys hName⟩

/-- A key on a variable takes the place of a text that cannot be read, and a text that was read is
read again as an array. -/
theorem write_read_ordering_variable :
    (Object.empty.put .string "relation" "variable").get? .string "relation" =
      .ok (some variableRelation) ∧
    readList (putList (Object.empty.put .string "orderBy" "A.B.C")
        [byVariable none "" .string none]) = .ok [byVariable none "" .string none] ∧
    OrderBy.parse "ID_ asc" = .ok [ofColumn ⟨"ID_", none⟩ .ascending] ∧
    (ofColumn ⟨"ID_", none⟩ .ascending).relation.name? = none ∧
    readList (putList .empty [ofColumn ⟨"ID_", none⟩ .ascending]) =
      .ok [ofColumn ⟨"ID_", none⟩ .ascending] := by
  obtain ⟨-, -, -, -, hRead, hText, -, -, hPut, hAgain⟩ := write_read_ordering
  have hKey : format.read (Object.empty.put .string "relation" "variable") =
      .ok ⟨.variableValues, none, none, []⟩ := by rfl
  have hParse : OrderBy.parse "ID_ asc" = .ok [ofColumn ⟨"ID_", none⟩ .ascending] := by
    decide +kernel
  refine ⟨hRead _ _ hKey, (hPut _ _ (List.cons_ne_nil _ _)).1, hParse,
    hText _ _ hParse _ List.mem_cons_self, ?_⟩
  refine hAgain (Object.empty.put .string "orderBy" "ID_ asc") _ ?_
  rw [readList_of_text (by rfl) (by rfl)]
  exact hParse

end SortKey

end DeferredJobs.Query
