import DeferredJobs.Proofs.Tolerance.Refusal

/-!
# Payloads extend additively

What a later version adds to a configuration does not disturb its readers, at any level: members
under names that a reader does not know, an optional field written as null, a flag written as false,
further activities of a migration instruction. Only the list of names in the refusal of a
modification instruction shows them.

* `Reader.mapError_read_change`, `Reader.mapError_read_changes`: what one change, and any number of
  them, leave of an answer.
* `Reader.Refuses.change`, `Reader.Refuses.changes`: what becomes of an instruction that is refused.
* `Reader.read_of_changes`: readers answer the same, or list the names that the refused instruction
  has after the changes.
-/

namespace DeferredJobs

open Object
open Relation (ReflTransGen)

variable {o o' : Object}

/-! ## Insertions -/

namespace Object.Change

variable {fields : List (String × Role)}

theorem insert_unread (o : Object) {name : String} (value : Json)
    (hUnread : Entries.find? fields name = none) :
    Object.Change fields o (o.insert name value) := by
  refine .unread name hUnread fun other hOther => ?_
  rw [find?_insert, if_neg hOther]

theorem insert_field {name : String} {role : Role} {value : Json}
    (hRole : Entries.find? fields name = some role)
    (hChange : role.Change (o.find? name) (some value)) :
    Object.Change fields o (o.insert name value) := by
  refine .field name role hRole ?_ fun other hOther => ?_
  · rw [find?_insert, if_pos rfl]
    exact hChange
  · rw [find?_insert, if_neg hOther]

end Object.Change

/-! ## Readers -/

/-- What objects are read as: whole configurations, and records inside them. -/
inductive Reader where
  | deletion | jobRetries | externalTaskRetries | migration | modification | restart
  | migrationPlan | migrationInstruction | modificationInstruction
  | sortKey | condition | sortKeys | variableFilter
  | jobDefinitionSuspension | processDefinitionSuspension | cleanup

namespace Reader

@[reducible]
def Value : Reader → Type
  | deletion => Batch.Deletion
  | jobRetries | externalTaskRetries => Batch.Retries
  | migration => Batch.Migration
  | modification => Batch.Modification
  | restart => Batch.Restart
  | migrationPlan => MigrationPlan
  | migrationInstruction => MigrationInstruction
  | modificationInstruction => ModificationInstruction
  | sortKey => Query.SortKey
  | condition => Query.Condition
  | sortKeys => List Query.SortKey
  | variableFilter => Query.VariableFilter
  | jobDefinitionSuspension => JobDefinitionSuspension
  | processDefinitionSuspension => ProcessDefinitionSuspension
  | cleanup => Cleanup

def format : (reader : Reader) → Format reader.Value
  | deletion => Batch.Deletion.format
  | jobRetries => Batch.Retries.jobFormat
  | externalTaskRetries => Batch.Retries.externalTaskFormat
  | migration => Batch.Migration.format
  | modification => Batch.Modification.format
  | restart => Batch.Restart.format
  | migrationPlan => MigrationPlan.format
  | migrationInstruction => MigrationInstruction.format
  | modificationInstruction => ModificationInstruction.format
  | sortKey => Query.SortKey.format
  | condition => Query.Condition.format
  | sortKeys => Query.SortKey.listFormat
  | variableFilter => Query.VariableFilter.format
  | jobDefinitionSuspension => JobDefinitionSuspension.format
  | processDefinitionSuspension => ProcessDefinitionSuspension.format
  | cleanup => Cleanup.format

def fields : Reader → List (String × Role)
  | deletion => Batch.Deletion.fields
  | jobRetries => Batch.Retries.fieldsOf Batch.Retries.jobIdsField
  | externalTaskRetries => Batch.Retries.fieldsOf Batch.Retries.externalTaskIdsField
  | migration => Batch.Migration.fields
  | modification => Batch.Modification.fields
  | restart => Batch.Restart.fields
  | migrationPlan => MigrationPlan.fields
  | migrationInstruction => MigrationInstruction.fields
  | modificationInstruction => ModificationInstruction.fields
  | sortKey => Query.SortKey.fields
  | condition => Query.Condition.fields
  | sortKeys => Query.SortKey.listFields
  | variableFilter => Query.VariableFilter.fields
  | jobDefinitionSuspension => JobDefinitionSuspension.fields
  | processDefinitionSuspension => ProcessDefinitionSuspension.fields
  | cleanup => Cleanup.fields

/-- Whether modification instructions are among what is read. -/
def readsInstructions : Reader → Bool
  | modification | restart | modificationInstruction => true
  | _ => false

/-- The modification instructions in an object. -/
def instructions (reader : Reader) (o : Object) : List Json :=
  match reader with
  | modificationInstruction => [o.toJson]
  | modification | restart =>
    match o.require .array "instructions" with
    | .ok items => items
    | .error _ => []
  | _ => []

/-- The first modification instruction that is at fault. -/
def faulty? (reader : Reader) (o : Object) : Option Json :=
  (reader.instructions o).find? (!ModificationInstruction.format.reads ·)

/-! ## Any number of changes -/

/-- Faults without what they tell of names. -/
def view (reader : Reader) : ConfigurationError → ConfigurationError :=
  if reader.readsInstructions then ConfigurationError.withoutNames else id

theorem mapError_read_change (reader : Reader) (h : Object.Change reader.fields o o') :
    (reader.format.read o').mapError reader.view = (reader.format.read o).mapError reader.view := by
  cases reader with
  | deletion => exact congrArg (Except.mapError _) (Batch.Deletion.read_change h)
  | jobRetries => exact congrArg (Except.mapError _) (Batch.Retries.read_change h)
  | externalTaskRetries => exact congrArg (Except.mapError _) (Batch.Retries.read_change h)
  | migration => exact congrArg (Except.mapError _) (Batch.Migration.read_change h)
  | modification => exact Batch.Modification.read_change h
  | restart => exact Batch.Restart.read_change h
  | migrationPlan => exact congrArg (Except.mapError _) (MigrationPlan.read_change h)
  | migrationInstruction => exact congrArg (Except.mapError _) (MigrationInstruction.read_change h)
  | modificationInstruction => exact ModificationInstruction.read_change h
  | sortKey => exact congrArg (Except.mapError _) (Query.SortKey.read_change h)
  | condition => exact congrArg (Except.mapError _) (Query.Condition.read_change h)
  | sortKeys => exact congrArg (Except.mapError _) (Query.SortKey.readList_change h)
  | variableFilter => exact congrArg (Except.mapError _) (Query.VariableFilter.read_change h)
  | jobDefinitionSuspension =>
    exact congrArg (Except.mapError _) (JobDefinitionSuspension.read_change h)
  | processDefinitionSuspension =>
    exact congrArg (Except.mapError _) (ProcessDefinitionSuspension.read_change h)
  | cleanup => exact congrArg (Except.mapError _) (Cleanup.read_change h)

theorem mapError_read_changes (reader : Reader)
    (h : ReflTransGen (Object.Change reader.fields) o o') :
    (reader.format.read o').mapError reader.view = (reader.format.read o).mapError reader.view := by
  induction h with
  | refl => rfl
  | tail _ hStep ih => rw [reader.mapError_read_change hStep, ih]

/-! ## Refusals -/

/-- The object is refused because the first instruction at fault in it has no kind, and the answer
lists the names of this instruction. -/
structure Refuses (reader : Reader) (o instruction : Object) : Prop where
  first : reader.faulty? o = some instruction.toJson
  unrecognized : ModificationInstruction.Kind.ofObject? instruction = none
  answer : reader.format.read o = .error (.unrecognizedInstruction instruction.names)

theorem refuses_of_readInstructions {reader : Reader} {names : List String}
    (hInstructions : ∀ items, o.require .array "instructions" = .ok items →
      reader.instructions o = items)
    (h : reader.format.read o = .error (.unrecognizedInstruction names))
    (hRead : Batch.readInstructions o = .error (.unrecognizedInstruction names)) :
    ∃ instruction, reader.Refuses o instruction := by
  obtain ⟨items, i, hItems, hFirst, hKind, rfl⟩ := Batch.exists_of_readInstructions hRead
  refine ⟨i, ?_, hKind, h⟩
  rw [faulty?, hInstructions items hItems]
  exact hFirst

theorem refuses_of_read {reader : Reader} (hReads : reader.readsInstructions) {names : List String}
    (h : reader.format.read o = .error (.unrecognizedInstruction names)) :
    ∃ instruction, reader.Refuses o instruction := by
  cases reader with
  | modificationInstruction =>
    obtain ⟨hKind, rfl⟩ := ModificationInstruction.unrecognized_of_read h
    have hReads : ModificationInstruction.format.reads o.toJson = false := Format.reads_of_error h
    refine ⟨o, ?_, hKind, h⟩
    rw [faulty?, instructions, List.find?_cons_of_pos]
    rw [hReads]
    rfl
  | modification =>
    exact refuses_of_readInstructions (fun items hItems => by rw [instructions, hItems]) h
      (Batch.Modification.readInstructions_of_refused rfl h)
  | restart =>
    exact refuses_of_readInstructions (fun items hItems => by rw [instructions, hItems]) h
      (Batch.Restart.readInstructions_of_refused rfl h)
  | _ => cases hReads

theorem readsInstructions_of_refuses {reader : Reader} {i : Object} (h : reader.Refuses o i) :
    reader.readsInstructions := by
  have hFirst := h.first
  cases reader with
  | modificationInstruction | modification | restart => rfl
  | _ => cases hFirst

/-- The first instruction at fault is the same, or arises from the same by the one change. -/
theorem faulty?_change {reader : Reader} (h : Object.Change reader.fields o o') {i : Object}
    (hFaulty : reader.faulty? o = some i.toJson) :
    ∃ i', reader.faulty? o' = some i'.toJson ∧
      ReflTransGen (Object.Change ModificationInstruction.fields) i i' := by
  cases reader with
  | modificationInstruction =>
    exact ModificationInstruction.find?_faulty_change h [] [] hFaulty
  | modification | restart =>
    rw [faulty?, instructions] at hFaulty ⊢
    rcases h.requireRecords "instructions" rfl with
      hSame | ⟨j, j', before, after, hInner, hOld, hNew⟩
    · rw [hSame]
      exact ⟨i, hFaulty, .refl⟩
    · rw [hOld] at hFaulty
      rw [hNew]
      exact ModificationInstruction.find?_faulty_change hInner before after hFaulty
  | _ => cases hFaulty

theorem Refuses.change {reader : Reader} (h : Object.Change reader.fields o o') {i : Object}
    (hRefuses : reader.Refuses o i) :
    ∃ i', reader.Refuses o' i' ∧
      ReflTransGen (Object.Change ModificationInstruction.fields) i i' := by
  have hReads := readsInstructions_of_refuses hRefuses
  have hAgree := reader.mapError_read_change h
  rw [view, if_pos hReads, hRefuses.answer] at hAgree
  have hAnswer : ∃ names, reader.format.read o' = .error (.unrecognizedInstruction names) := by
    rcases eq_or_refused hAgree with hSame | ⟨-, names, -, hNew⟩
    · exact ⟨_, hSame⟩
    · exact ⟨names, hNew⟩
  obtain ⟨names, hAnswer⟩ := hAnswer
  obtain ⟨i', hRefuses'⟩ := refuses_of_read hReads hAnswer
  obtain ⟨found, hFound, hChanges⟩ := faulty?_change h hRefuses.first
  rw [hRefuses'.first] at hFound
  obtain rfl := Object.eq_of_toJson (Option.some.inj hFound)
  exact ⟨i', hRefuses', hChanges⟩

theorem Refuses.changes {reader : Reader} (h : ReflTransGen (Object.Change reader.fields) o o')
    {i : Object} (hRefuses : reader.Refuses o i) :
    ∃ i', reader.Refuses o' i' ∧
      ReflTransGen (Object.Change ModificationInstruction.fields) i i' := by
  induction h with
  | refl => exact ⟨i, hRefuses, .refl⟩
  | tail _ hStep ih =>
    obtain ⟨j, hMiddle, hBefore⟩ := ih
    obtain ⟨i', hLast, hAfter⟩ := hMiddle.change hStep
    exact ⟨i', hLast, hBefore.trans hAfter⟩

/-! ## Additive extension -/

/-- However an object is changed, as long as each change is one that its fields allow, it is read
as before. Only where an instruction without a kind is refused, the answer lists the names that this
instruction has after the changes. -/
theorem read_of_changes (reader : Reader) {o o' : Object}
    (h : ReflTransGen (Object.Change reader.fields) o o') :
    reader.format.read o' = reader.format.read o ∨
      ∃ instruction instruction', reader.Refuses o instruction ∧ reader.Refuses o' instruction' ∧
        ReflTransGen (Object.Change ModificationInstruction.fields) instruction instruction' := by
  have hAgree := reader.mapError_read_changes h
  by_cases hReads : reader.readsInstructions
  · rw [view, if_pos hReads] at hAgree
    rcases eq_or_refused hAgree with hSame | ⟨names, names', hOld, -⟩
    · exact .inl hSame
    · obtain ⟨i, hRefuses⟩ := refuses_of_read hReads hOld
      obtain ⟨i', hRefuses', hChanges⟩ := hRefuses.changes h
      exact .inr ⟨i, i', hRefuses, hRefuses', hChanges⟩
  · left
    rw [view, if_neg hReads, mapError_id, mapError_id] at hAgree
    exact hAgree

/-- With a flag written as false, and then a name that nobody knows. -/
theorem read_of_changes_flag_note :
    ReflTransGen (Object.Change (fields migrationInstruction))
        (MigrationInstruction.format.write ⟨"a", "b", false⟩)
        (((MigrationInstruction.format.write ⟨"a", "b", false⟩).insert "updateEventTrigger"
          (.bool false)).insert "note" .null) ∧
      (format migrationInstruction).read
          (((MigrationInstruction.format.write ⟨"a", "b", false⟩).insert "updateEventTrigger"
            (.bool false)).insert "note" .null) =
        .ok ⟨"a", "b", false⟩ := by
  have hFlag : Object.Change (fields migrationInstruction)
      (MigrationInstruction.format.write ⟨"a", "b", false⟩)
      ((MigrationInstruction.format.write ⟨"a", "b", false⟩).insert "updateEventTrigger"
        (.bool false)) := Object.Change.insert_field rfl (.within .addFalse)
  have hUnread : Entries.find? (fields migrationInstruction) "note" = none := rfl
  have hChanges := (ReflTransGen.single hFlag).tail (Object.Change.insert_unread _ .null hUnread)
  refine ⟨hChanges, ?_⟩
  rcases migrationInstruction.read_of_changes hChanges with hSame | ⟨i, i', hRefuses, -⟩
  · exact hSame
  · cases hRefuses.first

/-- Where an instruction has no kind, its answer shows a name that nobody knows, and a flag written
as false. -/
theorem read_ne_of_change :
    (Object.Change (fields modificationInstruction) .empty (Object.empty.insert "note" .null) ∧
      (format modificationInstruction).read (Object.empty.insert "note" .null) ≠
        (format modificationInstruction).read .empty) ∧
    (Object.Change (fields modificationInstruction) .empty
        (Object.empty.insert "cancelCurrentActiveActivityInstances" (.bool false)) ∧
      (format modificationInstruction).read
          (Object.empty.insert "cancelCurrentActiveActivityInstances" (.bool false)) ≠
        (format modificationInstruction).read .empty) := by
  refine ⟨⟨Object.Change.insert_unread .empty .null rfl, ?_⟩, ⟨?_, ?_⟩⟩
  · intro h
    cases h
  · exact Object.Change.insert_field rfl (.within .addFalse)
  · intro h
    cases h

end Reader

end DeferredJobs
