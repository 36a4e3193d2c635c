import Mathlib.Data.List.Forall2
import DeferredJobs.Proofs.Batch.Format
import DeferredJobs.Proofs.Configuration.Demand

/-!
# Arrays, element by element

An `ElementRule` says what an element of an array is read as, and which fault it has otherwise under
the name that messages give it. An array is decided by a rule if its elements are read in their order
and none is left out, or else the first that is at fault is the answer, whatever comes after it.

* `elementName_injective`: the name of an element tells its place.
* `readItems_eq_ok_iff`: the values of a list are those of its items.
* `ElementRule.decided_readItems`: lists, by the reader of one element.
* `ElementRule.decided_readAll`, `ElementRule.decided_requireStrings`: arrays of objects, of strings.
* `Format.readAll_writeAll_iff`: a list is read back if its values are, and only then.
* `Object.requireStrings_ok_iff`: which fields are read as which strings.
* `arrays_exact`: all of it together.
-/

namespace DeferredJobs

variable {α : Type}

/-! ## Places and lists -/

theorem elementName_injective (field : String) : Function.Injective (elementName field) := by
  intro i j h
  rw [elementName, elementName, String.append_left_inj, String.append_right_inj] at h
  have hDigits : Nat.toDigits 10 i = Nat.toDigits 10 j := by
    rw [← Nat.toList_repr, ← Nat.toList_repr]
    exact congrArg String.toList h
  calc i = Nat.ofDigitChars 10 (Nat.toDigits 10 i) 0 := Nat.ofDigitChars_ten_toDigits.symm
    _ = Nat.ofDigitChars 10 (Nat.toDigits 10 j) 0 := by rw [hDigits]
    _ = j := Nat.ofDigitChars_ten_toDigits

/-- The values of a list are those of its items, in their order. -/
theorem readItems_eq_ok_iff {read : Nat → Json → Except ConfigurationError α}
    {Reads : Json → α → Prop} (hItem : ∀ index item a, read index item = .ok a ↔ Reads item a)
    (start : Nat) {items : List Json} {values : List α} :
    readItems read start items = .ok values ↔ List.Forall₂ Reads items values := by
  induction items generalizing start values with
  | nil =>
    constructor
    · intro h
      cases h
      exact .nil
    · intro h
      cases h
      rfl
  | cons item rest ih =>
    rw [readItems_cons]
    constructor
    · intro h
      obtain ⟨a, hFirst, h⟩ := bind_eq_ok h
      obtain ⟨others, hRest, h⟩ := bind_eq_ok h
      cases h
      exact .cons ((hItem start item a).1 hFirst) ((ih (start + 1)).1 hRest)
    · rintro (_ | ⟨hFirst, hRest⟩)
      rw [(hItem start item _).2 hFirst, ok_bind, (ih (start + 1)).2 hRest]
      rfl

/-! ## Rules for elements -/

/-- What an element is read as, and its fault under its name if it cannot be read. -/
structure ElementRule (α : Type) where
  Reads : Json → α → Prop
  Fault : String → Json → ConfigurationError → Prop

namespace ElementRule

def string : ElementRule String where
  Reads item text := item = .string text
  Fault name item e := ¬ FieldType.string.Holds item ∧ e = .wrongType name .string

/-- Objects, each as the format reads it. The fault of an object does not depend on its place. -/
def ofFormat (format : Format α) : ElementRule α where
  Reads item a := ∃ o : Object, item = o.toJson ∧ format.read o = .ok a
  Fault name item e :=
    ¬ FieldType.object.Holds item ∧ e = .wrongType name .object ∨
      ∃ o : Object, item = o.toJson ∧ format.read o = .error e

/-- The result of reading an array is that of all its elements, or of the first that is at fault. -/
structure Decided (rule : ElementRule α) (field : String) (items : List Json)
    (x : Except ConfigurationError (List α)) : Prop where
  exists_iff : (∃ values, x = .ok values) ↔ ∀ item ∈ items, ∃ a, rule.Reads item a
  ok_iff : ∀ values, x = .ok values ↔ List.Forall₂ rule.Reads items values
  error_iff : ∀ e, x = .error e ↔
    ∃ before item after, items = before ++ item :: after ∧
      (∀ earlier ∈ before, ∃ a, rule.Reads earlier a) ∧
      rule.Fault (elementName field before.length) item e

theorem decided_readItems {rule : ElementRule α} {read : String → Json → Except ConfigurationError α}
    (hOk : ∀ name item a, read name item = .ok a ↔ rule.Reads item a)
    (hError : ∀ name item e, read name item = .error e ↔ rule.Fault name item e) (field : String)
    (items : List Json) :
    rule.Decided field items (readItems (fun index => read (elementName field index)) 0 items) := by
  have hItem (index : Nat) (item : Json) (a : α) :
      read (elementName field index) item = .ok a ↔ rule.Reads item a :=
    hOk (elementName field index) item a
  have hExists (index : Nat) (item : Json) :
      (∃ a, read (elementName field index) item = .ok a) ↔ ∃ a, rule.Reads item a :=
    exists_congr (hItem index item)
  refine ⟨readItems_ok_iff hExists 0 items, fun values => readItems_eq_ok_iff hItem 0, fun e => ?_⟩
  simp only [readItems_error_iff, readItems_ok_iff hExists, hError, Nat.zero_add]

theorem decided_readAll (format : Format α) (field : String) (items : List Json) :
    (ofFormat format).Decided field items (format.readAll field items) := by
  have hOk (name : String) (item : Json) (a : α) :
      (FieldType.object.readAs name item >>= format.read) = .ok a ↔ (ofFormat format).Reads item a :=
    FieldType.readAs_bind_ok_iff FieldType.exact_object
  have hError (name : String) (item : Json) (e : ConfigurationError) :
      (FieldType.object.readAs name item >>= format.read) = .error e ↔
        (ofFormat format).Fault name item e :=
    FieldType.readAs_bind_error_iff FieldType.exact_object
  exact decided_readItems hOk hError field items

theorem decided_requireStrings {o : Object} {name : String} {items : List Json}
    (h : o.find? name = some (.array items)) :
    string.Decided name items (o.requireStrings name) := by
  have hArray : o.require .array name = .ok items := Object.require_of_find? h
  have hOk (name : String) (item : Json) (text : String) :
      FieldType.string.readAs name item = .ok text ↔ string.Reads item text :=
    FieldType.readAs_ok_iff FieldType.exact_string
  have hError (name : String) (item : Json) (e : ConfigurationError) :
      FieldType.string.readAs name item = .error e ↔ string.Fault name item e :=
    FieldType.readAs_error_iff FieldType.exact_string
  rw [Object.requireStrings, hArray]
  exact decided_readItems hOk hError name items

end ElementRule

/-! ## Lists that were written -/

theorem Format.readAll_writeAll_iff {format : Format α} {field : String} {values : List α} :
    format.readAll field (format.writeAll values) = .ok values ↔
      ∀ a ∈ values, format.read (format.write a) = .ok a := by
  rw [(ElementRule.decided_readAll format field _).ok_iff, writeAll, List.forall₂_map_left_iff,
    List.forall₂_same]
  refine forall₂_congr fun a _ => ?_
  have hElement : (FieldType.object.readAs field (format.write a).toJson >>= format.read) = .ok a ↔
      (ElementRule.ofFormat format).Reads (format.write a).toJson a :=
    FieldType.readAs_bind_ok_iff FieldType.exact_object
  exact hElement.symm

theorem Object.requireStrings_ok_iff {o : Object} {name : String} {values : List String} :
    o.requireStrings name = .ok values ↔ o.find? name = some (.array (values.map .string)) := by
  refine ⟨fun h => ?_, requireStrings_of_find?⟩
  obtain ⟨items, hArray, -⟩ := bind_eq_ok h
  have hFound : o.find? name = some (.array items) := (require_ok_iff FieldType.exact_array).1 hArray
  have hItems : List.Forall₂ (fun item text => item = .string text) items values :=
    ((ElementRule.decided_requireStrings hFound).ok_iff values).1 h
  rw [← List.forall₂_map_right_iff (R := (· = ·)), List.forall₂_eq_eq_eq] at hItems
  rw [hFound, hItems]

/-- The name of an element has its index in brackets, and no other element has this name. An array is
read by a format as the values of its elements, in their order, if each is an object that the format
reads. Otherwise the first that is not decides, whatever comes after it: by its name if it is no
object, and by its own fault if it is. So a list is read back from what it is written to exactly if
each of its values is. Lists of strings are read in the same way, and from no field but an array of
just these strings. -/
theorem arrays_exact :
    (∀ field i, elementName field i = field ++ "[" ++ toString i ++ "]" ∧
      ∀ j, elementName field j = elementName field i → j = i) ∧
    (∀ {α : Type} (format : Format α) (field : String),
      (∀ items, (ElementRule.ofFormat format).Decided field items (format.readAll field items)) ∧
      ∀ values, format.readAll field (format.writeAll values) = .ok values ↔
        ∀ a ∈ values, format.read (format.write a) = .ok a) ∧
    ∀ (o : Object) (name : String),
      (∀ items, o.find? name = some (.array items) →
        ElementRule.string.Decided name items (o.requireStrings name)) ∧
      ∀ values, o.requireStrings name = .ok values ↔
        o.find? name = some (.array (values.map .string)) := by
  refine ⟨fun field i => ⟨rfl, fun j h => elementName_injective field h⟩, ?_, fun o name => ⟨?_, ?_⟩⟩
  · intro α format field
    exact ⟨ElementRule.decided_readAll format field, fun values => Format.readAll_writeAll_iff⟩
  · intro items hFound
    exact ElementRule.decided_requireStrings hFound
  · intro values
    exact Object.requireStrings_ok_iff

/-- Of two faulty elements the first decides, whichever of them is no object. -/
theorem arrays_exact_two_faults :
    MigrationInstruction.format.readAll "instructions"
      [(MigrationInstruction.format.write ⟨"a", "b", true⟩).toJson, .null, Object.empty.toJson] =
        .error (.wrongType "instructions[1]" .object) ∧
    MigrationInstruction.format.readAll "instructions" [Object.empty.toJson, .null] =
      .error (.missingField "sourceActivityIds") ∧
    MigrationInstruction.format.readAll "instructions"
      (MigrationInstruction.format.writeAll [⟨"b", "c", true⟩, ⟨"a", "b", false⟩, ⟨"b", "c", true⟩]) =
        .ok [⟨"b", "c", true⟩, ⟨"a", "b", false⟩, ⟨"b", "c", true⟩] ∧
    (Object.empty.put .array "ids" [.string "b", .string "b", .null, .bool true]).requireStrings
      "ids" = .error (.wrongType "ids[2]" .string) ∧
    (Object.empty.putStrings "ids" ["b", "a", "b"]).requireStrings "ids" = .ok ["b", "a", "b"] := by
  obtain ⟨-, hFormats, hStrings⟩ := arrays_exact
  obtain ⟨hItems, hValues⟩ := hFormats MigrationInstruction.format "instructions"
  refine ⟨?_, ?_, ?_, ?_, ?_⟩
  · refine ((hItems _).error_iff _).2 ⟨[_], .null, [_], rfl, ?_, .inl ⟨?_, rfl⟩⟩
    · exact List.forall_mem_singleton.2 ⟨_, _, rfl, MigrationInstruction.read_write _⟩
    · rintro ⟨o, h⟩
      cases h
  · exact ((hItems _).error_iff _).2 ⟨[], _, [.null], rfl, nofun, .inr ⟨Object.empty, rfl, rfl⟩⟩
  · exact (hValues _).2 fun i _ => MigrationInstruction.read_write i
  · have hFound := Object.find?_put Object.empty "ids" "ids" .array
      [.string "b", .string "b", .null, .bool true]
    refine (((hStrings _ "ids").1 _ hFound).error_iff _).2
      ⟨[.string "b", .string "b"], .null, [.bool true], rfl, ?_, ?_, rfl⟩
    · exact List.forall_mem_cons.2 ⟨⟨"b", rfl⟩, List.forall_mem_singleton.2 ⟨"b", rfl⟩⟩
    · rintro ⟨text, h⟩
      cases h
  · exact ((hStrings _ "ids").2 _).2 rfl

end DeferredJobs
