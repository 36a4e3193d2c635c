import DeferredJobs.Proofs.Batch.Format
import DeferredJobs.Proofs.Cleanup
import DeferredJobs.Proofs.Job.Execution
import DeferredJobs.Proofs.Suspension.Format

/-!
# Persistence

Records keep payloads as texts. What a job does is decided by the payload alone, so it does not
matter whether a payload takes the way through its canonical text, nor which of the texts that are
read as this payload a record holds.

* `StandardJob.lossless`: the formats of all standard jobs lose nothing.
* `Registry.execute_persist`: to run a persisted payload is to run the payload.
* `Registry.execute_rewrite`: an accepted text and its canonical form are one job.
-/

namespace DeferredJobs

namespace StandardJob

/-- The payloads that reading can produce: a selector that is not recognised has an unknown name. -/
def Proper : (job : StandardJob) → job.Payload → Prop
  | activateJobDefinition | suspendJobDefinition => fun c => c.selector.Proper
  | activateProcessDefinition | suspendProcessDefinition => fun c => c.selector.Proper
  | historyCleanup | migration | modification | restart | setJobRetries | setExternalTaskRetries
  | deleteHistoricDecisionInstances => fun _ => True

theorem lossless (job : StandardJob) : job.format.Lossless job.Proper := by
  cases job with
  | activateJobDefinition | suspendJobDefinition => exact JobDefinitionSuspension.lossless
  | activateProcessDefinition | suspendProcessDefinition =>
    exact ProcessDefinitionSuspension.lossless
  | historyCleanup => exact Cleanup.lossless
  | migration => exact Batch.Migration.lossless
  | modification => exact Batch.Modification.lossless
  | restart => exact Batch.Restart.lossless
  | setJobRetries => exact Batch.Retries.lossless (by decide)
  | setExternalTaskRetries => exact Batch.Retries.lossless (by decide)
  | deleteHistoricDecisionInstances => exact Batch.Deletion.lossless

/-- The record of a job whose payload is kept as its canonical text. -/
def persist (job : StandardJob) (layout : Layout) (payload : job.Payload) (record : JobRecord) :
    JobRecord :=
  { record with handlerType := job.type, configuration := job.format.canonical layout payload }

end StandardJob

/-- The batch that a command submits, with the job it stems from. -/
def EngineCommand.batch? : EngineCommand → Option ((job : StandardJob) × job.Payload)
  | migrateProcessInstances body => some ⟨.migration, body⟩
  | modifyProcessInstances body => some ⟨.modification, body⟩
  | restartProcessInstances body => some ⟨.restart, body⟩
  | setJobRetries body => some ⟨.setJobRetries, body⟩
  | setExternalTaskRetries body => some ⟨.setExternalTaskRetries, body⟩
  | deleteHistoricDecisionInstances body => some ⟨.deleteHistoricDecisionInstances, body⟩
  | setJobDefinitionState _ | setProcessDefinitionState _ | historyCleanup _ => none

theorem StandardJob.command_of_mem_batches {job : StandardJob} (h : job ∈ batches)
    (payload : job.Payload) :
    ∃ command, job.command payload = .ok command ∧ command.batch? = some ⟨job, payload⟩ := by
  cases job with
  | migration | modification | restart | setJobRetries | setExternalTaskRetries
  | deleteHistoricDecisionInstances => exact ⟨_, rfl, rfl⟩
  | _ => simp [batches] at h

namespace Registry

variable {σ : Type}

/-- Attempts cannot tell records of one job apart whose texts are read as one payload. -/
theorem execute_congr (settings : Settings) {job : StandardJob} {record other : JobRecord}
    {payload : job.Payload} (hType : record.handlerType = job.type)
    (hOtherType : other.handlerType = job.type)
    (hParse : job.format.parse record.configuration = .ok payload)
    (hOtherParse : job.format.parse other.configuration = .ok payload)
    (context : CommandContext σ) (state : σ) :
    (ofSettings settings).execute record context state =
      (ofSettings settings).execute other context state := by
  cases hJob : settings.job? job.type with
  | none =>
    rw [execute_of_unknown (hType ▸ hJob), execute_of_unknown (hOtherType ▸ hJob), hType,
      hOtherType]
  | some found =>
    cases StandardJob.type_inj (Settings.job?_iff.1 hJob).2
    rw [execute_of_parse (hType ▸ hJob) hParse, execute_of_parse (hOtherType ▸ hJob) hOtherParse]
    rfl

/-- To run a persisted payload is to run the payload, in whichever layouts texts are written and
the registry works. Batches arrive whole. -/
theorem execute_persist (written registered : Layout) {job : StandardJob} {payload : job.Payload}
    (hProper : job.Proper payload) (record : JobRecord) :
    (∀ {σ : Type} (execution tenant : Option String) (context : CommandContext σ) (state : σ),
      (ofSettings { layout := registered }).execute (job.persist written payload record) context
          state =
        job.handler.execute payload execution tenant context state) ∧
    (job ∈ StandardJob.batches → ∃ command, command.batch? = some ⟨job, payload⟩ ∧
      ∀ commands, (ofSettings { layout := registered }).execute
          (job.persist written payload record) Recorder.context { commands } =
        (.ok (), { commands := commands ++ [command] })) := by
  have hJob : Settings.job? { layout := registered }
      (job.persist written payload record).handlerType = some job :=
    Settings.job?_type registered job
  have hParse : job.format.parse (job.persist written payload record).configuration =
      .ok payload := job.lossless.parse_canonical hProper written
  have hExecute {σ : Type} (execution tenant : Option String) (context : CommandContext σ)
      (state : σ) :
      (ofSettings { layout := registered }).execute (job.persist written payload record) context
          state =
        job.handler.execute payload execution tenant context state := by
    rw [execute_of_parse hJob hParse]
    rfl
  refine ⟨hExecute, fun hBatch => ?_⟩
  obtain ⟨command, hCommand, hBody⟩ := StandardJob.command_of_mem_batches hBatch payload
  refine ⟨command, hBody, fun commands => ?_⟩
  rw [hExecute none none]
  exact JobHandler.execute_of_ok hCommand none none Recorder.context { commands }

/-- A selector that nobody knows is kept, and a persisted attempt refuses it by its name. -/
theorem execute_persist_unknown_selector :
    (Selector.unrecognized "version").Proper ∧
    (ofSettings { layout := .indented }).execute
        (StandardJob.suspendJobDefinition.persist .compact
          { selector := .unrecognized "version", includeJobs := true, tenant := .withoutTenant }
          { id := ⟨0⟩, handlerType := "", configuration := "", createdAt := ⟨0, 0⟩ })
        Recorder.context {} =
      (.error (.configuration (.unknownSelector "version")), {}) := by
  have hProper : (Selector.unrecognized "version").Proper := by
    simp [Selector.Proper, Selector.knownNames, Selector.name]
  refine ⟨hProper, ?_⟩
  rw [(execute_persist .compact .indented (by exact hProper) _).1 none none]
  rfl

/-- An accepted text and the canonical text of what it is read as are one job: rewriting is
lossless, has nothing to do a second time, and no attempt can tell the texts apart. So canonical
texts tell apart exactly the payloads. -/
theorem execute_rewrite {job : StandardJob} {text : String} {payload : job.Payload}
    (hParse : job.format.parse text = .ok payload) (layout : Layout) :
    job.format.parse (job.format.canonical layout payload) = .ok payload ∧
    (job.format.parse (job.format.canonical layout payload)).map (job.format.canonical layout) =
      .ok (job.format.canonical layout payload) ∧
    (∀ {σ : Type} (settings : Settings) (record : JobRecord) (context : CommandContext σ)
      (state : σ),
      (ofSettings settings).execute (job.persist layout payload record) context state =
        (ofSettings settings).execute
          { record with handlerType := job.type, configuration := text } context state) ∧
    ∀ (otherText : String) (other : job.Payload), job.format.parse otherText = .ok other →
      (payload = other ↔
        job.format.canonical layout payload = job.format.canonical layout other) := by
  have hCanonical := job.lossless.parse_canonical_of_parse hParse layout
  refine ⟨hCanonical, ?_, ?_, ?_⟩
  · rw [hCanonical]
    rfl
  · intro σ settings record context state
    have hRewritten : job.format.parse (job.persist layout payload record).configuration =
        .ok payload := hCanonical
    apply execute_congr settings _ _ hRewritten
    · exact hParse
    · rfl
    · rfl
  · intro otherText other hOther
    refine ⟨congrArg _, fun hText => ?_⟩
    exact job.lossless.canonical_inj (job.lossless.proper_of_parse hParse)
      (job.lossless.proper_of_parse hOther) hText

/-- A flag written out, a name that nobody reads and blanks are gone after rewriting. The null of
the tenant is not. -/
theorem execute_rewrite_empty_selector :
    StandardJob.suspendJobDefinition.format.parse
        "\x7b \"x\":[],\"includeJobs\":false,\"processDefinitionTenantId\":null,\"by\":\"\"\x7d" =
      .ok { selector := .unrecognized "", includeJobs := false, tenant := .withoutTenant } ∧
    StandardJob.suspendJobDefinition.format.parse
        (StandardJob.suspendJobDefinition.format.canonical .indented
          { selector := .unrecognized "", includeJobs := false, tenant := .withoutTenant }) =
      .ok { selector := .unrecognized "", includeJobs := false, tenant := .withoutTenant } := by
  have hParse : StandardJob.suspendJobDefinition.format.parse
      "\x7b \"x\":[],\"includeJobs\":false,\"processDefinitionTenantId\":null,\"by\":\"\"\x7d" =
      .ok { selector := .unrecognized "", includeJobs := false, tenant := .withoutTenant } := by
    decide +kernel
  exact ⟨hParse, (execute_rewrite hParse .indented).1⟩

end Registry

end DeferredJobs
