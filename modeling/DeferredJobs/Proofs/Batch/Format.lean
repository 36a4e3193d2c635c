import DeferredJobs.Batch.Format
import DeferredJobs.Proofs.Configuration.Format

/-!
# Batches are read back

Every batch is read back from the object it is written to, with its ids and instructions in
their order, and so are the plans and instructions it carries. The proofs go field by field: each
reader finds what the writer of its field left there.

An instruction that modifies a process instance is recognised by the first of six names present
in its object; `ofObject?_write` says that only its own name is.
-/

namespace DeferredJobs

open Object

/-! ## Migration plans -/

theorem Object.requireFirst_of_find? {o : Object} {name value : String}
    (h : o.find? name = some (.array ([value].map .string))) :
    o.requireFirst name = .ok value := by
  have hArray : o.require .array name = .ok ([value].map .string) := require_of_find? h
  rw [requireFirst, hArray]
  rfl

namespace MigrationInstruction

theorem read_write (i : MigrationInstruction) : format.read (format.write i) = .ok i := by
  have hSource : (format.write i).requireFirst "sourceActivityIds" = .ok i.source :=
    requireFirst_of_find? (by simp [format])
  have hTarget : (format.write i).requireFirst "targetActivityIds" = .ok i.target :=
    requireFirst_of_find? (by simp [format])
  have hTrigger : (format.write i).flag "updateEventTrigger" false = .ok i.updateEventTrigger :=
    flag_of_find? (by simp [format])
  generalize format.write i = o at hSource hTarget hTrigger ⊢
  simp only [format, hSource, hTarget, hTrigger, ok_bind]
  rfl

theorem storable_write (bound : Nat) (i : MigrationInstruction) :
    (format.write i).toJson.Storable (bound + 2) :=
  storable_putFlag (storable_putStrings (storable_putStrings (storable_empty _) _ _) _ _) _ _ _

end MigrationInstruction

namespace MigrationPlan

theorem read_write (plan : MigrationPlan) : format.read (format.write plan) = .ok plan := by
  have hSource : (format.write plan).require .string "sourceProcessDefinitionId" =
      .ok plan.source := require_of_find? (by simp [format])
  have hTarget : (format.write plan).require .string "targetProcessDefinitionId" =
      .ok plan.target := require_of_find? (by simp [format])
  have hArray : (format.write plan).require .array "instructions" =
      .ok (MigrationInstruction.format.writeAll plan.instructions) :=
    require_of_find? (by simp [format])
  have hInstructions := Format.readAll_writeAll MigrationInstruction.read_write "instructions"
    plan.instructions
  generalize format.write plan = o at hSource hTarget hArray ⊢
  simp only [format, hSource, hTarget, hArray, ok_bind, hInstructions]
  rfl

theorem storable_write (bound : Nat) (plan : MigrationPlan) :
    (format.write plan).toJson.Storable (bound + 4) := by
  have hInstructions := Format.storable_writeAll
    (MigrationInstruction.storable_write bound) plan.instructions
  exact storable_put (storable_putString (storable_putString (storable_empty _) _ _) _ _)
    hInstructions _

end MigrationPlan

/-! ## Modification instructions -/

namespace ModificationInstruction

theorem ofObject?_write (i : ModificationInstruction) : Kind.ofObject? i.write = some i.kind := by
  have hContains (o : Object) (name : String) : o.contains name = (o.find? name).isSome := rfl
  cases i <;>
    simp [Kind.ofObject?, Kind.all, hContains, write, discriminator, kind, Kind.discriminator]

/-- An instance is found under its own name, whatever names the process instance. -/
theorem require_instance {name : String} (hName : name ≠ "processInstances")
    (id processInstance : String) :
    ((Object.empty.put .string name id).put .string "processInstances" processInstance).require
      .string name = .ok id :=
  require_of_find? (by simp [hName])

theorem readKind_write (i : ModificationInstruction) : readKind i.write i.kind = .ok i := by
  cases i with
  | startBefore id | startAfter id | startTransition id =>
    simp only [readKind, kind, write, discriminator, require_put, ok_bind]
    rfl
  | cancelAll id onlyActive =>
    have hId : (cancelAll id onlyActive).write.require .string "cancelAllForActivity" = .ok id :=
      require_of_find? (by simp [write, discriminator, kind, Kind.discriminator])
    have hActive : (cancelAll id onlyActive).write.flag "cancelCurrentActiveActivityInstances"
        false = .ok onlyActive :=
      flag_of_find? (by simp [write, discriminator, kind, Kind.discriminator])
    generalize (cancelAll id onlyActive).write = o at hId hActive ⊢
    simp only [readKind, kind, Kind.discriminator, hId, hActive, ok_bind]
    rfl
  | cancelActivityInstance processInstance id =>
    have hId := require_instance (by decide : "cancelActivityInstances" ≠ _) id processInstance
    simp only [readKind, kind, write, discriminator, Kind.discriminator, require_put, hId, ok_bind]
    rfl
  | cancelTransitionInstance processInstance id =>
    have hId := require_instance (by decide : "cancelTransitionInstances" ≠ _) id processInstance
    simp only [readKind, kind, write, discriminator, Kind.discriminator, require_put, hId, ok_bind]
    rfl

/-- An object is read as an instruction of the kind that its names tell. -/
theorem read_of_ofObject? {o : Object} {kind : Kind} (h : Kind.ofObject? o = some kind) :
    format.read o = readKind o kind := by
  simp only [format, h]

theorem read_write (i : ModificationInstruction) : format.read (format.write i) = .ok i :=
  (read_of_ofObject? (ofObject?_write i)).trans (readKind_write i)

theorem storable_write (bound : Nat) (i : ModificationInstruction) :
    (format.write i).toJson.Storable (bound + 1) := by
  cases i with
  | startBefore id | startAfter id | startTransition id =>
    exact storable_putString (storable_empty bound) _ _
  | cancelAll id onlyActive =>
    exact storable_putFlag (storable_putString (storable_empty bound) _ _) _ _ _
  | cancelActivityInstance processInstance id | cancelTransitionInstance processInstance id =>
    exact storable_putString (storable_putString (storable_empty bound) _ _) _ _

end ModificationInstruction

/-! ## Batches -/

namespace Batch

theorem readInstructions_of_find? {o : Object} {instructions : List ModificationInstruction}
    (h : o.find? "instructions" =
      some (FieldType.array.write (ModificationInstruction.format.writeAll instructions))) :
    readInstructions o = .ok instructions := by
  have hArray : o.require .array "instructions" =
      .ok (ModificationInstruction.format.writeAll instructions) := require_of_find? h
  rw [readInstructions, hArray, ok_bind]
  exact Format.readAll_writeAll ModificationInstruction.read_write "instructions" instructions

theorem storable_instructions (bound : Nat) (instructions : List ModificationInstruction) :
    (Json.array (ModificationInstruction.format.writeAll instructions)).Storable (bound + 2) :=
  Format.storable_writeAll (ModificationInstruction.storable_write bound) instructions

theorem Deletion.lossless : Deletion.format.Lossless fun _ => True where
  read_write b _ := by
    have hIds : (Deletion.format.write b).requireStrings "historicDecisionInstanceIds" =
        .ok b.ids := requireStrings_of_find? (by simp [Deletion.format])
    generalize Deletion.format.write b = o at hIds ⊢
    simp only [Deletion.format, hIds, ok_bind]
    rfl
  proper_of_read _ _ _ := trivial
  storable b := storable_putStrings (storable_empty 126) _ b.ids

theorem Retries.lossless {idsField : String} (hField : idsField ≠ "retries") :
    (Retries.formatOf idsField).Lossless fun _ => True where
  read_write b _ := by
    have hIds : ((Retries.formatOf idsField).write b).requireStrings idsField = .ok b.ids :=
      requireStrings_of_find? (by simp [Retries.formatOf, hField])
    have hRetries : ((Retries.formatOf idsField).write b).require .int32 "retries" =
        .ok b.retries := require_put _ _ _ _
    generalize (Retries.formatOf idsField).write b = o at hIds hRetries ⊢
    simp only [Retries.formatOf, hIds, hRetries, ok_bind]
    rfl
  proper_of_read _ _ _ := trivial
  storable b := storable_put (storable_putStrings (storable_empty 126) _ b.ids)
    (Json.storable_int 126 _) _

theorem Migration.lossless : Migration.format.Lossless fun _ => True where
  read_write b _ := by
    have hIds : (Migration.format.write b).requireStrings "processInstanceIds" = .ok b.ids :=
      requireStrings_of_find? (by simp [Migration.format])
    have hObject : (Migration.format.write b).require .object "migrationPlan" =
        .ok (MigrationPlan.format.write b.plan) :=
      require_of_find? (by simp [Migration.format])
    have hPlan := MigrationPlan.read_write b.plan
    have hListeners : (Migration.format.write b).flag "skipListeners" false =
        .ok b.skipCustomListeners :=
      flag_of_find? (by simp [Migration.format])
    have hMappings : (Migration.format.write b).flag "skipIoMappings" false =
        .ok b.skipIoMappings :=
      flag_of_find? (by simp [Migration.format])
    generalize Migration.format.write b = o at hIds hObject hListeners hMappings ⊢
    simp only [Migration.format, hIds, hObject, hPlan, hListeners, hMappings, ok_bind]
    rfl
  proper_of_read _ _ _ := trivial
  storable b := by
    have hPlan := MigrationPlan.storable_write 122 b.plan
    exact storable_putFlag (storable_putFlag (storable_putStrings
      (storable_put (storable_empty 126) hPlan _) _ _) _ _ _) _ _ _

theorem Modification.lossless : Modification.format.Lossless fun _ => True where
  read_write b _ := by
    have hIds : (Modification.format.write b).requireStrings "processInstanceIds" = .ok b.ids :=
      requireStrings_of_find? (by simp [Modification.format])
    have hDefinition : (Modification.format.write b).require .string "processDefinitionId" =
        .ok b.processDefinition :=
      require_of_find? (by simp [Modification.format])
    have hInstructions : readInstructions (Modification.format.write b) = .ok b.instructions :=
      readInstructions_of_find? (by simp [Modification.format])
    have hListeners : (Modification.format.write b).flag "skipListeners" false =
        .ok b.skipCustomListeners :=
      flag_of_find? (by simp [Modification.format])
    have hMappings : (Modification.format.write b).flag "skipIoMappings" false =
        .ok b.skipIoMappings :=
      flag_of_find? (by simp [Modification.format])
    generalize Modification.format.write b = o
      at hIds hDefinition hInstructions hListeners hMappings ⊢
    simp only [Modification.format, hIds, hDefinition, hInstructions, hListeners, hMappings,
      ok_bind]
    rfl
  proper_of_read _ _ _ := trivial
  storable b := by
    have hInstructions := storable_instructions 124 b.instructions
    exact storable_putFlag (storable_putFlag (storable_putString (storable_putStrings
      (storable_put (storable_empty 126) hInstructions _) _ _) _ _) _ _ _) _ _ _

theorem Restart.lossless : Restart.format.Lossless fun _ => True where
  read_write b _ := by
    have hIds : (Restart.format.write b).requireStrings "processInstanceIds" = .ok b.ids :=
      requireStrings_of_find? (by simp [Restart.format])
    have hInstructions : readInstructions (Restart.format.write b) = .ok b.instructions :=
      readInstructions_of_find? (by simp [Restart.format])
    have hDefinition : (Restart.format.write b).require .string "processDefinitionId" =
        .ok b.processDefinition :=
      require_of_find? (by simp [Restart.format])
    have hInitial : (Restart.format.write b).flag "initialVariables" false =
        .ok b.initialVariables :=
      flag_of_find? (by simp [Restart.format])
    have hListeners : (Restart.format.write b).flag "skipCustomListeners" false =
        .ok b.skipCustomListeners :=
      flag_of_find? (by simp [Restart.format])
    have hMappings : (Restart.format.write b).flag "skipIoMappings" false =
        .ok b.skipIoMappings :=
      flag_of_find? (by simp [Restart.format])
    have hKey : (Restart.format.write b).flag "withoutBusinessKey" false =
        .ok b.withoutBusinessKey :=
      flag_of_find? (by simp [Restart.format])
    generalize Restart.format.write b = o
      at hIds hInstructions hDefinition hInitial hListeners hMappings hKey ⊢
    simp only [Restart.format, hIds, hInstructions, hDefinition, hInitial, hListeners, hMappings,
      hKey, ok_bind]
    rfl
  proper_of_read _ _ _ := trivial
  storable b := by
    have hInstructions := storable_instructions 124 b.instructions
    exact storable_putFlag (storable_putFlag (storable_putFlag (storable_putFlag
      (storable_put (storable_putString (storable_putStrings (storable_empty 126) _ _) _ _)
        hInstructions _) _ _ _) _ _ _) _ _ _) _ _ _

end Batch

end DeferredJobs
