import DeferredJobs.Proofs.Tolerance.Formats
import Mathlib.Logic.Relation

/-!
# Refused instructions

An instruction without a kind is refused with all names of its object. In an array it is refused if
it is the first that is at fault in any way, and it stays the first after a change inside it or
inside another.

* `ModificationInstruction.unrecognized_of_read`: which instructions are refused, and with which
  names.
* `Batch.exists_of_readInstructions`: which instruction of an array is refused.
* `ModificationInstruction.find?_faulty_change`: the first instruction at fault, after a change of
  one of them.
-/

namespace DeferredJobs

open Object
open Relation (ReflTransGen)

variable {o o' : Object}

/-! ## Items of an array -/

theorem Object.eq_of_toJson {a b : Object} (h : a.toJson = b.toJson) : a = b := by
  cases a
  cases b
  cases h
  rfl

/-- Whether an item is an object that can be read. -/
def Format.reads {α : Type} (format : Format α) (item : Json) : Bool :=
  match item.toObject? with
  | some o => (format.read o).isOk
  | none => false

namespace Format

variable {α : Type} {format : Format α}

theorem reads_of_ok {field : String} {item : Json} {a : α}
    (h : (FieldType.object.readAs field item >>= format.read) = .ok a) : format.reads item := by
  obtain ⟨o, hObject, hRead⟩ := bind_eq_ok h
  obtain rfl := (FieldType.readAs_ok_iff FieldType.exact_object).1 hObject
  show (format.read o).isOk = true
  rw [hRead]
  rfl

theorem reads_of_error {e : ConfigurationError} (h : format.read o = .error e) :
    format.reads o.toJson = false := by
  show (format.read o).isOk = false
  rw [h]
  rfl

end Format

theorem isOk_mapError {α ε : Type} (f : ε → ε) (x : Except ε α) : (x.mapError f).isOk = x.isOk := by
  cases x <;> rfl

theorem ModificationInstruction.reads_change (h : Object.Change fields o o') :
    format.reads o'.toJson = format.reads o.toJson := by
  show (format.read o').isOk = (format.read o).isOk
  rw [← isOk_mapError ConfigurationError.withoutNames, read_change h, isOk_mapError]

/-- The first item at fault stays where it is, and changes by at most the one change. -/
theorem ModificationInstruction.find?_faulty_change {i j j' : Object}
    (h : Object.Change fields j j') (before after : List Json)
    (hFound : (before ++ j.toJson :: after).find? (!format.reads ·) = some i.toJson) :
    ∃ i', (before ++ j'.toJson :: after).find? (!format.reads ·) = some i'.toJson ∧
      ReflTransGen (Object.Change fields) i i' := by
  rw [List.find?_append] at hFound ⊢
  cases hBefore : before.find? (!format.reads ·) with
  | some item =>
    rw [hBefore] at hFound
    exact ⟨i, hFound, .refl⟩
  | none =>
    rw [hBefore, Option.none_or] at hFound
    rw [Option.none_or]
    by_cases hReads : format.reads j.toJson
    · rw [List.find?_cons_of_neg (by simp [hReads])] at hFound
      rw [List.find?_cons_of_neg (by simp [reads_change h, hReads])]
      exact ⟨i, hFound, .refl⟩
    · rw [List.find?_cons_of_pos (by simp [hReads])] at hFound
      rw [List.find?_cons_of_pos (by simp [reads_change h, hReads])]
      obtain rfl := Object.eq_of_toJson (Option.some.inj hFound)
      exact ⟨j', rfl, .single h⟩

/-! ## Faults that are no faults of a field -/

theorem ConfigurationError.eq_of_withoutNames_eq {e e' : ConfigurationError}
    (h : e'.withoutNames = e.withoutNames) :
    e' = e ∨ ∃ names names', e = .unrecognizedInstruction names ∧
      e' = .unrecognizedInstruction names' := by
  cases e with
  | unrecognizedInstruction names =>
    cases e' with
    | unrecognizedInstruction names' => exact .inr ⟨names, names', rfl, rfl⟩
    | _ => cases h
  | _ =>
    cases e' with
    | unrecognizedInstruction names' => cases h
    | _ => exact .inl h

theorem eq_or_refused {α : Type} {x x' : Except ConfigurationError α}
    (h : x'.mapError ConfigurationError.withoutNames =
      x.mapError ConfigurationError.withoutNames) :
    x' = x ∨ ∃ names names', x = .error (.unrecognizedInstruction names) ∧
      x' = .error (.unrecognizedInstruction names') := by
  cases x with
  | ok a =>
    cases x' with
    | ok a' => exact .inl h
    | error e' => cases h
  | error e =>
    cases x' with
    | ok a' => cases h
    | error e' =>
      have hErrors := ConfigurationError.eq_of_withoutNames_eq (Except.error.inj h)
      rcases hErrors with rfl | ⟨names, names', rfl, rfl⟩
      · exact .inl rfl
      · exact .inr ⟨names, names', rfl, rfl⟩

/-- A fault that is not one of a field comes later. -/
theorem exists_of_bind_refused {α β : Type} {x : Except ConfigurationError α}
    {next : α → Except ConfigurationError β} {e : ConfigurationError}
    (hRefused : e.isMalformed = false) (hField : Malformed x) (h : (x >>= next) = .error e) :
    ∃ a, x = .ok a ∧ next a = .error e := by
  rcases bind_eq_error h with hFirst | hNext
  · rw [hField e hFirst] at hRefused
    cases hRefused
  · exact hNext

namespace ModificationInstruction

variable {names : List String}

theorem readKind_malformed (o : Object) (kind : Kind) : Malformed (readKind o kind) := by
  cases kind with
  | startBefore | startAfter | startTransition => exact require_malformed.bind fun _ => .ok _
  | cancelAll => exact require_malformed.bind fun _ => flag_malformed.bind fun _ => .ok _
  | cancelActivityInstance | cancelTransitionInstance =>
    exact require_malformed.bind fun _ => require_malformed.bind fun _ => .ok _

/-- An instruction is refused for want of a kind, and with all its names. -/
theorem unrecognized_of_read (h : format.read o = .error (.unrecognizedInstruction names)) :
    Kind.ofObject? o = none ∧ names = o.names := by
  simp only [format] at h
  cases hKind : Kind.ofObject? o with
  | some kind =>
    rw [hKind] at h
    cases readKind_malformed o kind _ h
  | none =>
    rw [hKind] at h
    cases h
    exact ⟨rfl, rfl⟩

end ModificationInstruction

namespace Batch

theorem exists_of_readInstructions {names : List String}
    (h : readInstructions o = .error (.unrecognizedInstruction names)) :
    ∃ items i, o.require .array "instructions" = .ok items ∧
      items.find? (!ModificationInstruction.format.reads ·) = some (Object.toJson i) ∧
      ModificationInstruction.Kind.ofObject? i = none ∧ names = i.names := by
  obtain ⟨items, hItems, h⟩ := exists_of_bind_refused rfl require_malformed h
  obtain ⟨before, item, after, rfl, ⟨values, hEarlier⟩, h⟩ := readItems_error_iff.1 h
  obtain ⟨i, hObject, hRead⟩ := exists_of_bind_refused rfl readAs_malformed h
  obtain rfl := (FieldType.readAs_ok_iff FieldType.exact_object).1 hObject
  obtain ⟨hKind, hNames⟩ := ModificationInstruction.unrecognized_of_read hRead
  refine ⟨_, i, hItems, ?_, hKind, hNames⟩
  refine List.find?_eq_some_iff_append.2 ⟨?_, before, after, rfl, fun earlier hMem => ?_⟩
  · rw [Format.reads_of_error hRead]
    rfl
  · obtain ⟨index, instruction, hInstruction⟩ := exists_of_mem_readItems hEarlier earlier hMem
    rw [Format.reads_of_ok hInstruction]
    rfl

theorem Modification.readInstructions_of_refused {e : ConfigurationError}
    (hRefused : e.isMalformed = false) (h : format.read o = .error e) :
    readInstructions o = .error e := by
  obtain ⟨ids, -, h⟩ := exists_of_bind_refused hRefused requireStrings_malformed h
  obtain ⟨definition, -, h⟩ := exists_of_bind_refused hRefused require_malformed h
  rcases bind_eq_error h with hInstructions | ⟨instructions, -, h⟩
  · exact hInstructions
  · obtain ⟨skipListeners, -, h⟩ := exists_of_bind_refused hRefused flag_malformed h
    obtain ⟨skipIoMappings, -, h⟩ := exists_of_bind_refused hRefused flag_malformed h
    cases h

theorem Restart.readInstructions_of_refused {e : ConfigurationError}
    (hRefused : e.isMalformed = false) (h : format.read o = .error e) :
    readInstructions o = .error e := by
  obtain ⟨ids, -, h⟩ := exists_of_bind_refused hRefused requireStrings_malformed h
  rcases bind_eq_error h with hInstructions | ⟨instructions, -, h⟩
  · exact hInstructions
  · obtain ⟨definition, -, h⟩ := exists_of_bind_refused hRefused require_malformed h
    obtain ⟨initialVariables, -, h⟩ := exists_of_bind_refused hRefused flag_malformed h
    obtain ⟨skipListeners, -, h⟩ := exists_of_bind_refused hRefused flag_malformed h
    obtain ⟨skipIoMappings, -, h⟩ := exists_of_bind_refused hRefused flag_malformed h
    obtain ⟨withoutKey, -, h⟩ := exists_of_bind_refused hRefused flag_malformed h
    cases h

end Batch

end DeferredJobs
