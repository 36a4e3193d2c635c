import DeferredJobs.Proofs.Batch.Format
import DeferredJobs.Proofs.Tolerance.Readers

/-!
# Batches under the format of another

The formats of batches share names of fields, but each requires one that the others never write.
So a batch that is read in another format is refused, and the fault names the first such field.
The exception are modifications and restarts, which require the same fields. They are read as each
other, and only the flag that goes by one name in both formats survives.

* `Reader.find?_write_of_not_mem`, `Reader.contains_write`: which fields a batch is written with.
* `Reader.exists_unwritten`: where two formats differ first, which is at the first or at the second
  required field.
* `Reader.read_misrouted`: what becomes of a batch in the format of another.
-/

namespace DeferredJobs

open Object

/-! ## Required fields -/

/-- The field may not be left out. -/
def Role.isRequired : Role → Bool
  | optional _ => false
  | exact | leading | flag | record _ | records _ => true

namespace Object

variable {α : Type} {o : Object} {name : String}

theorem require_of_absent {type : FieldType α} (h : o.find? name = none) :
    o.require type name = .error (.missingField name) := by
  rw [require, h]

theorem requireStrings_of_absent (h : o.find? name = none) :
    o.requireStrings name = .error (.missingField name) := by
  rw [requireStrings, require_of_absent h]
  rfl

end Object

theorem Batch.readInstructions_of_absent {o : Object} (h : o.find? "instructions" = none) :
    readInstructions o = .error (.missingField "instructions") := by
  rw [readInstructions, require_of_absent h]
  rfl

/-! ## Modifications and restarts -/

namespace Batch

/-- A modification read as a restart starts as its instructions say and skips no listeners. -/
theorem Restart.read_write_modification (b : Modification) :
    format.read (Modification.format.write b) = .ok {
      ids := b.ids, instructions := b.instructions, processDefinition := b.processDefinition,
      initialVariables := false, skipCustomListeners := false, skipIoMappings := b.skipIoMappings,
      withoutBusinessKey := false } := by
  have hIds : (Modification.format.write b).requireStrings "processInstanceIds" = .ok b.ids :=
    requireStrings_of_find? (by simp [Modification.format])
  have hInstructions : readInstructions (Modification.format.write b) = .ok b.instructions :=
    readInstructions_of_find? (by simp [Modification.format])
  have hDefinition : (Modification.format.write b).require .string "processDefinitionId" =
      .ok b.processDefinition := require_of_find? (by simp [Modification.format])
  have hInitial : (Modification.format.write b).flag "initialVariables" false = .ok false :=
    flag_of_find? (by simp [Modification.format])
  have hListeners : (Modification.format.write b).flag "skipCustomListeners" false = .ok false :=
    flag_of_find? (by simp [Modification.format])
  have hMappings : (Modification.format.write b).flag "skipIoMappings" false =
      .ok b.skipIoMappings := flag_of_find? (by simp [Modification.format])
  have hKey : (Modification.format.write b).flag "withoutBusinessKey" false = .ok false :=
    flag_of_find? (by simp [Modification.format])
  generalize Modification.format.write b = o
    at hIds hInstructions hDefinition hInitial hListeners hMappings hKey ⊢
  simp only [format, hIds, hInstructions, hDefinition, hInitial, hListeners, hMappings, hKey,
    ok_bind]
  rfl

/-- A restart read as a modification keeps none of the flags of restarts, and skips no listeners. -/
theorem Modification.read_write_restart (b : Restart) :
    format.read (Restart.format.write b) = .ok {
      ids := b.ids, processDefinition := b.processDefinition, instructions := b.instructions,
      skipCustomListeners := false, skipIoMappings := b.skipIoMappings } := by
  have hIds : (Restart.format.write b).requireStrings "processInstanceIds" = .ok b.ids :=
    requireStrings_of_find? (by simp [Restart.format])
  have hDefinition : (Restart.format.write b).require .string "processDefinitionId" =
      .ok b.processDefinition := require_of_find? (by simp [Restart.format])
  have hInstructions : readInstructions (Restart.format.write b) = .ok b.instructions :=
    readInstructions_of_find? (by simp [Restart.format])
  have hListeners : (Restart.format.write b).flag "skipListeners" false = .ok false :=
    flag_of_find? (by simp [Restart.format])
  have hMappings : (Restart.format.write b).flag "skipIoMappings" false = .ok b.skipIoMappings :=
    flag_of_find? (by simp [Restart.format])
  generalize Restart.format.write b = o at hIds hDefinition hInstructions hListeners hMappings ⊢
  simp only [format, hIds, hDefinition, hInstructions, hListeners, hMappings, ok_bind]
  rfl

end Batch

namespace Reader

deriving instance DecidableEq for Reader

/-- The formats of whole batches. -/
def batches : List Reader :=
  [deletion, jobRetries, externalTaskRetries, migration, modification, restart]

/-- The names of the fields, in the order of reading. -/
def names (reader : Reader) : List String :=
  Entries.names reader.fields

/-- The names of the fields that may not be left out, in the order of reading. -/
def required (reader : Reader) : List String :=
  Entries.names (reader.fields.filter (·.2.isRequired))

/-! ## What batches are written with -/

section Written

variable {reader : Reader} (hReader : reader ∈ batches) (value : reader.Value) {name : String}
include hReader

theorem find?_write_of_not_mem (hName : name ∉ reader.names) :
    (reader.format.write value).find? name = none := by
  cases reader with
  | deletion | jobRetries | externalTaskRetries | migration | modification | restart =>
    simp [names, Entries.names, fields, Batch.Deletion.fields, Batch.Retries.fieldsOf,
      Batch.Migration.fields, Batch.Modification.fields, Batch.Restart.fields] at hName
    simp [format, Batch.Deletion.format, Batch.Retries.jobFormat, Batch.Retries.externalTaskFormat,
      Batch.Retries.formatOf, Batch.Migration.format, Batch.Modification.format,
      Batch.Restart.format, hName]
  | _ => simp [batches] at hReader

theorem contains_write (hName : name ∈ reader.required) :
    (reader.format.write value).contains name := by
  rw [contains_eq]
  cases reader with
  | deletion | jobRetries | externalTaskRetries | migration | modification | restart =>
    simp [required, Entries.names, fields, Role.isRequired, Batch.Deletion.fields,
      Batch.Retries.fieldsOf, Batch.Migration.fields, Batch.Modification.fields,
      Batch.Restart.fields] at hName
    rcases hName with rfl | rfl | rfl <;>
      simp [format, Batch.Deletion.format, Batch.Retries.jobFormat, Batch.Retries.jobIdsField,
        Batch.Retries.externalTaskFormat, Batch.Retries.externalTaskIdsField,
        Batch.Retries.formatOf, Batch.Migration.format, Batch.Modification.format,
        Batch.Restart.format]
  | _ => simp [batches] at hReader

/-- Whoever requires the ids of process instances writes them as a list of strings. -/
theorem requireStrings_write (hIds : "processInstanceIds" ∈ reader.required) :
    ∃ ids, (reader.format.write value).requireStrings "processInstanceIds" = .ok ids := by
  cases reader with
  | migration =>
    exact ⟨value.ids, requireStrings_of_find? (by simp [format, Batch.Migration.format])⟩
  | modification =>
    exact ⟨value.ids, requireStrings_of_find? (by simp [format, Batch.Modification.format])⟩
  | restart =>
    exact ⟨value.ids, requireStrings_of_find? (by simp [format, Batch.Restart.format])⟩
  | deletion | jobRetries | externalTaskRetries => exact absurd hIds (by decide)
  | _ => simp [batches] at hReader

end Written

/-! ## Objects that lack a required field -/

section Absent

variable {reader : Reader} (hReader : reader ∈ batches) {o : Object} {name : String}
  {rest : List String}
include hReader

theorem read_of_first_absent (hRequired : reader.required = name :: rest)
    (hAbsent : o.find? name = none) : reader.format.read o = .error (.missingField name) := by
  cases reader with
  | deletion | jobRetries | externalTaskRetries | migration | modification | restart =>
    cases hRequired
    have hIds := requireStrings_of_absent hAbsent
    simp only [format, Batch.Deletion.format, Batch.Retries.jobFormat,
      Batch.Retries.externalTaskFormat, Batch.Retries.formatOf, Batch.Migration.format,
      Batch.Modification.format, Batch.Restart.format]
    rw [hIds]
    rfl
  | _ => simp [batches] at hReader

theorem read_of_second_absent
    (hRequired : reader.required = "processInstanceIds" :: name :: rest) {ids : List String}
    (hIds : o.requireStrings "processInstanceIds" = .ok ids) (hAbsent : o.find? name = none) :
    reader.format.read o = .error (.missingField name) := by
  cases reader with
  | migration =>
    cases hRequired
    simp only [format, Batch.Migration.format, hIds, ok_bind, require_of_absent hAbsent]
    rfl
  | modification =>
    cases hRequired
    simp only [format, Batch.Modification.format, hIds, ok_bind, require_of_absent hAbsent]
    rfl
  | restart =>
    cases hRequired
    simp only [format, Batch.Restart.format, hIds, ok_bind,
      Batch.readInstructions_of_absent hAbsent]
    rfl
  | deletion | jobRetries | externalTaskRetries =>
    exact absurd (List.cons.inj hRequired).1 (by decide)
  | _ => simp [batches] at hReader

end Absent

/-! ## Pairs of formats -/

/-- Modifications and restarts require the same fields. -/
def interchangeable : List (Reader × Reader) :=
  [(modification, restart), (restart, modification)]

/-- The first of the fields that one format requires and no batch of another is written with. -/
structure FirstUnwritten (read written : Reader) (name : String) : Prop where
  first : ∃ before after, read.required = before ++ name :: after ∧
    ∀ earlier ∈ before, ∀ value, (written.format.write value).contains earlier
  unwritten : ∀ value, (written.format.write value).find? name = none

theorem FirstUnwritten.of_first {read written : Reader} (hWritten : written ∈ batches)
    {name : String} {rest : List String} (hRequired : read.required = name :: rest)
    (hName : name ∉ written.names) : read.FirstUnwritten written name where
  first := ⟨[], rest, hRequired, nofun⟩
  unwritten value := find?_write_of_not_mem hWritten value hName

theorem FirstUnwritten.of_second {read written : Reader} (hWritten : written ∈ batches)
    {first name : String} {rest : List String} (hRequired : read.required = first :: name :: rest)
    (hFirst : first ∈ written.required) (hName : name ∉ written.names) :
    read.FirstUnwritten written name where
  first := by
    refine ⟨[first], rest, hRequired, fun earlier hEarlier value => ?_⟩
    obtain rfl := List.mem_singleton.1 hEarlier
    exact contains_write hWritten value hFirst
  unwritten value := find?_write_of_not_mem hWritten value hName

/-- What a format requires first is written by no other, unless it is the ids of process instances.
Then no other writes what it requires second, unless the two are interchangeable. -/
theorem exists_unwritten {written read : Reader} (hWritten : written ∈ batches)
    (hRead : read ∈ batches) (hNe : written ≠ read) (hPair : (written, read) ∉ interchangeable) :
    (∃ name rest, read.required = name :: rest ∧ name ∉ written.names) ∨
      ∃ name rest, read.required = "processInstanceIds" :: name :: rest ∧
        "processInstanceIds" ∈ written.required ∧ name ∉ written.names := by
  by_cases hIds : "processInstanceIds" ∈ written.names
  · have hOther : ∀ written ∈ batches, "processInstanceIds" ∈ names written →
        written = migration ∨ written = modification ∨ written = restart := by decide
    cases read with
    | deletion | jobRetries | externalTaskRetries =>
      refine .inl ⟨_, _, rfl, ?_⟩
      rcases hOther written hWritten hIds with rfl | rfl | rfl <;> decide
    | migration =>
      refine .inr ⟨_, _, rfl, ?_⟩
      rcases hOther written hWritten hIds with rfl | rfl | rfl
      · exact absurd rfl hNe
      · decide
      · decide
    | modification =>
      refine .inr ⟨_, _, rfl, ?_⟩
      rcases hOther written hWritten hIds with rfl | rfl | rfl
      · decide
      · exact absurd rfl hNe
      · exact absurd (by decide) hPair
    | restart =>
      refine .inr ⟨_, _, rfl, ?_⟩
      rcases hOther written hWritten hIds with rfl | rfl | rfl
      · decide
      · exact absurd (by decide) hPair
      · exact absurd rfl hNe
    | _ => simp [batches] at hRead
  · left
    cases read with
    | migration | modification | restart => exact ⟨_, _, rfl, hIds⟩
    | deletion =>
      have hOwn : ∀ written ∈ batches, written ≠ deletion →
          "historicDecisionInstanceIds" ∉ names written := by decide
      exact ⟨_, _, rfl, hOwn written hWritten hNe⟩
    | jobRetries =>
      have hOwn : ∀ written ∈ batches, written ≠ jobRetries → "jobIds" ∉ names written := by
        decide
      exact ⟨_, _, rfl, hOwn written hWritten hNe⟩
    | externalTaskRetries =>
      have hOwn : ∀ written ∈ batches, written ≠ externalTaskRetries →
          "externalTaskIds" ∉ names written := by decide
      exact ⟨_, _, rfl, hOwn written hWritten hNe⟩
    | _ => simp [batches] at hRead

/-- A batch is refused by the format of another, for the first field that this format requires and
that no such batch has. Modifications and restarts are taken for each other. Ids, instructions and
the flag of the mappings survive, and that listeners are skipped is lost both ways. -/
theorem read_misrouted :
    (∀ written ∈ batches, ∀ read ∈ batches, written ≠ read →
      (written, read) ∉ interchangeable →
      ∃ name, read.FirstUnwritten written name ∧
        ∀ value, read.format.read (written.format.write value) = .error (.missingField name)) ∧
    (∀ b : Batch.Modification, Batch.Restart.format.read (Batch.Modification.format.write b) =
      .ok {
        ids := b.ids, instructions := b.instructions, processDefinition := b.processDefinition,
        initialVariables := false, skipCustomListeners := false,
        skipIoMappings := b.skipIoMappings, withoutBusinessKey := false }) ∧
    ∀ b : Batch.Restart, Batch.Modification.format.read (Batch.Restart.format.write b) =
      .ok {
        ids := b.ids, processDefinition := b.processDefinition, instructions := b.instructions,
        skipCustomListeners := false, skipIoMappings := b.skipIoMappings } := by
  refine ⟨?_, Batch.Restart.read_write_modification, Batch.Modification.read_write_restart⟩
  intro written hWritten read hRead hNe hPair
  rcases exists_unwritten hWritten hRead hNe hPair with
    ⟨name, rest, hRequired, hName⟩ | ⟨name, rest, hRequired, hIds, hName⟩
  · refine ⟨name, .of_first hWritten hRequired hName, fun value => ?_⟩
    exact read_of_first_absent hRead hRequired (find?_write_of_not_mem hWritten value hName)
  · refine ⟨name, .of_second hWritten hRequired hIds hName, fun value => ?_⟩
    obtain ⟨ids, hWrittenIds⟩ := requireStrings_write hWritten value hIds
    exact read_of_second_absent hRead hRequired hWrittenIds
      (find?_write_of_not_mem hWritten value hName)

/-- A migration lacks the instructions of a restart. A modification has them, and passes for one. -/
theorem read_misrouted_as_restart :
    restart.FirstUnwritten migration "instructions" ∧
    Batch.Restart.format.read (Batch.Migration.format.write ⟨["i"], ⟨"a", "b", []⟩, true, true⟩) =
      .error (.missingField "instructions") ∧
    Batch.Restart.format.read
        (Batch.Modification.format.write ⟨["i", "i"], "p", [.cancelAll "a" true], true, true⟩) =
      .ok ⟨["i", "i"], [.cancelAll "a" true], "p", false, false, true, false⟩ := by
  obtain ⟨hRefused, hRestart, -⟩ := read_misrouted
  obtain ⟨name, hFirst, hRead⟩ :=
    hRefused migration (by decide) restart (by decide) (by decide) (by decide)
  have hName : Batch.Restart.format.read (Batch.Migration.format.write ⟨["i"], ⟨"a", "b", []⟩,
      true, true⟩) = .error (.missingField "instructions") := rfl
  obtain rfl : name = "instructions" := by
    cases (hRead _).symm.trans hName
    rfl
  exact ⟨hFirst, hRead _, hRestart _⟩

end Reader

end DeferredJobs
