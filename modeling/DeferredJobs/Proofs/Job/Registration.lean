import DeferredJobs.Proofs.Entries
import DeferredJobs.Proofs.Job.Operation

/-!
# Registration

A registry keeps one handler for each type, the one registered last. Which types there are and where
a record is routed follows from the handlers that were registered, and only handlers of one type
depend on their order. A handler reads the records of its type itself and answers for them as it likes,
so it may also answer an attempt as the registry does when there is no handler. The standard handlers
are registered under their own types, and each submits the commands of one operation.

* `AnyHandler.answers_of_find?`: what the handler that is found makes of a record.
* `Registry.ofHandlers_eq`: the registry after any registrations.
* `Registry.find?_of_last`, `Registry.find?_eq_none_iff`: the route of a type.
* `Registry.sort_eq_types`: the types in order.
* `Registry.ofHandlers_eq_of_sameByType`, `Registry.register_comm`: registrations in another order.
* `Registry.contains_ofSettings`, `Registry.performs_of_find?`: the standard registry.
* `Registry.registration_decides`: types, answers and standard handlers of a registry.
* `Registry.execute_unknown_of_registered`: an answer of an unknown type that a handler gives.
-/

namespace DeferredJobs

variable {σ : Type}

/-! ## Handlers -/

/-- A handler with whatever configurations it reads. -/
structure AnyHandler (σ : Type) where
  {Configuration : Type}
  handler : JobHandler σ Configuration

namespace AnyHandler

def type (handler : AnyHandler σ) : String :=
  handler.handler.type

def route (handler : AnyHandler σ) : Route σ :=
  handler.handler.route

/-- The handler is the last of its type. -/
def Last (handlers : List (AnyHandler σ)) (handler : AnyHandler σ) : Prop :=
  ∃ before after, handlers = before ++ handler :: after ∧
    ∀ later ∈ after, later.type ≠ handler.type

/-- The record is left to the handler. A configuration that it cannot read is refused, and one that it
reads is executed, or deleted, as it likes. -/
structure Answers (handler : AnyHandler σ) (registry : Registry σ) (record : JobRecord) : Prop where
  unreadable : ∀ e, handler.handler.read record.configuration = .error e →
    (∀ context state,
      registry.execute record context state = (.error (.configuration e), state)) ∧
    ∀ state, registry.delete record state = (.error (.configuration e), state)
  readable : ∀ configuration, handler.handler.read record.configuration = .ok configuration →
    (∀ context state, registry.execute record context state =
      handler.handler.execute configuration record.execution record.tenant context state) ∧
    ∀ state, registry.delete record state =
      (.ok (), handler.handler.onDelete configuration record state)

section Answers

variable {handler : AnyHandler σ} {registry : Registry σ} {record : JobRecord}

theorem answers_of_find? (h : registry.routes.find? record.handlerType = some handler.route) :
    handler.Answers registry record where
  unreadable e hRead := by
    refine ⟨fun context state => ?_, fun state => ?_⟩
    · exact (Registry.execute_of_find? h context state).trans
        (JobHandler.run_of_unreadable hRead context state)
    · exact (Registry.delete_of_find? h state).trans (JobHandler.delete_of_unreadable hRead state)
  readable configuration hRead := by
    refine ⟨fun context state => ?_, fun state => ?_⟩
    · exact (Registry.execute_of_find? h context state).trans
        (JobHandler.run_of_read hRead context state)
    · exact (Registry.delete_of_find? h state).trans (JobHandler.delete_of_read hRead state)

/-- Only the handler itself can answer an attempt as if there were none. -/
theorem Answers.execute_eq_unknown_iff (h : handler.Answers registry record)
    (context : CommandContext σ) (state : σ) (type : String) :
    (registry.execute record context state).1 = .error (.unknownHandler type) ↔
      ∃ configuration, handler.handler.read record.configuration = .ok configuration ∧
        (handler.handler.execute configuration record.execution record.tenant context state).1 =
          .error (.unknownHandler type) := by
  cases hRead : handler.handler.read record.configuration with
  | error e => simp [(h.unreadable e hRead).1 context state]
  | ok configuration => simp [(h.readable configuration hRead).1 context state]

/-- A deletion is never answered as of an unknown type once there is a handler. -/
theorem Answers.delete_ne_unknown (h : handler.Answers registry record) (state : σ)
    (type : String) : (registry.delete record state).1 ≠ .error (.unknownHandler type) := by
  cases hRead : handler.handler.read record.configuration with
  | error e =>
    rw [(h.unreadable e hRead).2 state]
    exact nofun
  | ok configuration =>
    rw [(h.readable configuration hRead).2 state]
    exact nofun

end Answers

def standard (job : StandardJob) : AnyHandler σ :=
  ⟨job.handler⟩

/-- Reads every text and answers every attempt alike. -/
def answering (type : String) (answer : Except JobError Unit) : AnyHandler σ where
  handler := {
    type
    read := .ok
    write := fun _ text => text
    execute := fun _ _ _ _ state => (answer, state)
    onDelete := fun _ _ state => state }

@[simp] theorem type_standard (job : StandardJob) : (standard job : AnyHandler σ).type = job.type :=
  rfl

@[simp] theorem type_answering (type : String) (answer : Except JobError Unit) :
    (answering type answer : AnyHandler σ).type = type := rfl

end AnyHandler

/-! ## Registries -/

namespace Registry

/-- The registry after handlers are registered one after the other. -/
def ofHandlers (layout : Layout) (handlers : List (AnyHandler σ)) : Registry σ :=
  registerAll { layout } (handlers.map AnyHandler.route)

theorem ofHandlers_concat (layout : Layout) (handlers : List (AnyHandler σ))
    (last : AnyHandler σ) :
    ofHandlers layout (handlers ++ [last]) = (ofHandlers layout handlers).register last.route := by
  rw [ofHandlers, registerAll, List.map_append, List.foldl_append]
  rfl

theorem ofHandlers_eq (layout : Layout) (handlers : List (AnyHandler σ)) :
    ofHandlers layout handlers =
      { layout
        routes := Entries.ofList (handlers.map fun handler => (handler.type, handler.route)) } := by
  induction handlers using List.reverseRecOn with
  | nil => rfl
  | append_singleton handlers last ih =>
    rw [ofHandlers_concat, ih, List.map_append, List.map_singleton, Entries.ofList_concat]
    rfl

variable {layout : Layout} {handlers : List (AnyHandler σ)} {record : JobRecord}

theorem mem_types_ofHandlers {type : String} :
    type ∈ (ofHandlers layout handlers).types ↔ ∃ handler ∈ handlers, handler.type = type := by
  rw [types, ofHandlers_eq, Entries.mem_names_ofList]
  simp

theorem contains_ofHandlers {type : String} :
    (ofHandlers layout handlers).contains type ↔ ∃ handler ∈ handlers, handler.type = type :=
  Entries.contains_iff_mem_names.trans mem_types_ofHandlers

theorem types_ascending (layout : Layout) (handlers : List (AnyHandler σ)) :
    (ofHandlers layout handlers).types.Pairwise (· < ·) := by
  rw [types, ofHandlers_eq]
  exact Entries.ascending_names (Entries.ascending_ofList _)

/-- In whatever order the types are listed, sorting them gives one list. -/
theorem sort_eq_types {keys : List String} (hNodup : keys.Nodup)
    (hKeys : ∀ type, type ∈ keys ↔ ∃ handler ∈ handlers, handler.type = type) :
    keys.mergeSort = (ofHandlers layout handlers).types := by
  have hTypes := types_ascending layout handlers
  have hPerm : keys.mergeSort.Perm (ofHandlers layout handlers).types := by
    refine (List.mergeSort_perm keys _).trans ?_
    refine (List.perm_ext_iff_of_nodup hNodup hTypes.nodup).2 fun type => ?_
    rw [hKeys, mem_types_ofHandlers]
  have hSorted : keys.mergeSort.Pairwise (· ≤ ·) := by
    have hSort : keys.mergeSort.Pairwise fun a b => decide (a ≤ b) = true :=
      List.pairwise_mergeSort (by simpa using fun a b c => String.le_trans)
        (by simpa using String.le_total) keys
    simpa using hSort
  exact hPerm.eq_of_pairwise (fun a b _ _ => String.le_antisymm) hSorted
    (hTypes.imp Std.le_of_lt)

theorem find?_of_last {handler : AnyHandler σ} (h : handler.Last handlers) :
    (ofHandlers layout handlers).routes.find? handler.type = some handler.route := by
  obtain ⟨before, after, rfl, hAfter⟩ := h
  rw [ofHandlers_eq]
  refine Entries.find?_ofList_eq_some_iff.2
    ⟨before.map fun handler => (handler.type, handler.route),
      after.map fun handler => (handler.type, handler.route), by simp, ?_⟩
  simpa using hAfter

theorem find?_eq_none_iff {type : String} :
    (ofHandlers layout handlers).routes.find? type = none ↔
      ∀ handler ∈ handlers, handler.type ≠ type := by
  rw [ofHandlers_eq, Entries.find?_ofList_eq_none_iff]
  simp

/-- Every type that is registered at all has a last handler. -/
theorem exists_last {handler : AnyHandler σ} (h : handler ∈ handlers) :
    ∃ last : AnyHandler σ, last.Last handlers ∧ last.type = handler.type := by
  have hFound : (ofHandlers .compact handlers).routes.find? handler.type ≠ none := fun hNone =>
    find?_eq_none_iff.1 hNone handler h rfl
  obtain ⟨route, hRoute⟩ := Option.ne_none_iff_exists'.1 hFound
  rw [ofHandlers_eq] at hRoute
  obtain ⟨before, after, hSplit, hAfter⟩ := Entries.find?_ofList_eq_some_iff.1 hRoute
  obtain ⟨first, rest, rfl, rfl, hRest⟩ := List.map_eq_append_iff.1 hSplit
  obtain ⟨last, later, rfl, hLast, rfl⟩ := List.map_eq_cons_iff.1 hRest
  have hType : last.type = handler.type := congrArg Prod.fst hLast
  exact ⟨last, ⟨first, later, rfl, by simpa [hType] using hAfter⟩, hType⟩

theorem ofHandlers_eq_of_sameByType {others : List (AnyHandler σ)}
    (h : ∀ type, handlers.filter (·.type = type) = others.filter (·.type = type)) :
    ofHandlers layout handlers = ofHandlers layout others := by
  have hEntries : Entries.SameByName (handlers.map fun handler => (handler.type, handler.route))
      (others.map fun handler => (handler.type, handler.route)) := by
    intro type
    rw [List.filter_map, List.filter_map]
    exact congrArg _ (h type)
  rw [ofHandlers_eq, ofHandlers_eq, Entries.ofList_eq_of_sameByName hEntries]

/-- Handlers of different types change places. -/
theorem register_comm {first second : AnyHandler σ} (h : first.type ≠ second.type) :
    ((ofHandlers layout handlers).register first.route).register second.route =
      ((ofHandlers layout handlers).register second.route).register first.route := by
  rw [← ofHandlers_concat, ← ofHandlers_concat, ← ofHandlers_concat, ← ofHandlers_concat]
  refine ofHandlers_eq_of_sameByType fun type => ?_
  by_cases hFirst : first.type = type
  · have hSecond : second.type ≠ type := fun hSecond => h (hFirst.trans hSecond.symm)
    simp [List.filter_cons, hSecond]
  · simp [List.filter_cons, hFirst]

/-- Registration is for records of one type only. -/
theorem find?_register_of_ne {registry : Registry σ} {handler : AnyHandler σ} {type : String}
    (h : type ≠ handler.type) :
    (registry.register handler.route).routes.find? type = registry.routes.find? type :=
  (find?_register registry handler.route type).trans (if_neg h)

/-- What a registry tells of the handlers that were registered in it one after the other. -/
structure Routes (registry : Registry σ) (handlers : List (AnyHandler σ)) : Prop where
  contains_iff : ∀ type, registry.contains type ↔ ∃ handler ∈ handlers, handler.type = type
  ascending : registry.types.Pairwise (· < ·)
  mem_types_iff : ∀ type, type ∈ registry.types ↔ ∃ handler ∈ handlers, handler.type = type
  /-- The types are sorted, in whatever order they are kept. -/
  sorted : ∀ keys : List String, keys.Nodup →
    (∀ type, type ∈ keys ↔ ∃ handler ∈ handlers, handler.type = type) →
    keys.mergeSort = registry.types
  last : ∀ handler : AnyHandler σ, handler.Last handlers → ∀ record : JobRecord,
    record.handlerType = handler.type → handler.Answers registry record
  unknown : ∀ record : JobRecord, (∀ handler ∈ handlers, handler.type ≠ record.handlerType) →
    (∀ context state, registry.execute record context state =
      (.error (.unknownHandler record.handlerType), state)) ∧
    ∀ state, registry.delete record state = (.error (.unknownHandler record.handlerType), state)
  route_unknown_iff : ∀ record, registry.route? record =
    .error (.unknownHandler record.handlerType) ↔
      ∀ handler ∈ handlers, handler.type ≠ record.handlerType
  /-- A handler may answer an attempt as it likes, also that it is unknown. -/
  execute_unknown_iff : ∀ record context state,
    (registry.execute record context state).1 = .error (.unknownHandler record.handlerType) ↔
      (∀ handler ∈ handlers, handler.type ≠ record.handlerType) ∨
      ∃ handler : AnyHandler σ, handler.Last handlers ∧ handler.type = record.handlerType ∧
        ∃ configuration, handler.handler.read record.configuration = .ok configuration ∧
          (handler.handler.execute configuration record.execution record.tenant context state).1 =
            .error (.unknownHandler record.handlerType)
  delete_unknown_iff : ∀ record state,
    (registry.delete record state).1 = .error (.unknownHandler record.handlerType) ↔
      ∀ handler ∈ handlers, handler.type ≠ record.handlerType

theorem route?_eq_unknown_iff {registry : Registry σ} :
    registry.route? record = .error (.unknownHandler record.handlerType) ↔
      registry.routes.find? record.handlerType = none := by
  rw [route?]
  split <;> simp [*]

/-- A record has a last handler of its type, or none at all. -/
theorem last_or_absent (handlers : List (AnyHandler σ)) (type : String) :
    (∃ handler : AnyHandler σ, handler.Last handlers ∧ handler.type = type) ∨
      ∀ handler ∈ handlers, handler.type ≠ type := by
  by_cases h : ∃ handler ∈ handlers, handler.type = type
  · obtain ⟨handler, hMem, rfl⟩ := h
    exact .inl (exists_last hMem)
  · exact .inr fun handler hMem hType => h ⟨handler, hMem, hType⟩

theorem routes_ofHandlers (layout : Layout) (handlers : List (AnyHandler σ)) :
    (ofHandlers layout handlers).Routes handlers := by
  have hLast (handler : AnyHandler σ) (h : handler.Last handlers) (record : JobRecord)
      (hType : record.handlerType = handler.type) :
      handler.Answers (ofHandlers layout handlers) record :=
    AnyHandler.answers_of_find? (by rw [hType, find?_of_last h])
  have hUnknown (record : JobRecord)
      (h : ∀ handler ∈ handlers, handler.type ≠ record.handlerType) :
      (ofHandlers layout handlers).routes.find? record.handlerType = none :=
    find?_eq_none_iff.2 h
  refine
    { contains_iff := fun type => contains_ofHandlers
      ascending := types_ascending layout handlers
      mem_types_iff := fun type => mem_types_ofHandlers
      sorted := fun keys => sort_eq_types
      last := hLast
      unknown := fun record h =>
        ⟨execute_of_absent (hUnknown record h), delete_of_absent (hUnknown record h)⟩
      route_unknown_iff := fun record => route?_eq_unknown_iff.trans find?_eq_none_iff
      execute_unknown_iff := fun record context state => ?_
      delete_unknown_iff := fun record state => ?_ }
  · constructor
    · intro hAnswer
      refine (last_or_absent handlers record.handlerType).symm.imp_right ?_
      rintro ⟨handler, h, hType⟩
      exact ⟨handler, h, hType,
        ((hLast handler h record hType.symm).execute_eq_unknown_iff context state _).1 hAnswer⟩
    · rintro (hAbsent | ⟨handler, h, hType, hOwn⟩)
      · rw [execute_of_absent (hUnknown record hAbsent)]
      · exact ((hLast handler h record hType.symm).execute_eq_unknown_iff context state _).2 hOwn
  · constructor
    · intro hAnswer
      refine (last_or_absent handlers record.handlerType).resolve_left ?_
      rintro ⟨handler, h, hType⟩
      exact (hLast handler h record hType.symm).delete_ne_unknown state _ hAnswer
    · intro hAbsent
      rw [delete_of_absent (hUnknown record hAbsent)]

/-! ## The standard registry -/

theorem ofSettings_eq (settings : Settings) :
    ofSettings (σ := σ) settings =
      ofHandlers settings.layout ((standardJobs settings).map AnyHandler.standard) := by
  rw [ofHandlers, List.map_map]
  rfl

theorem contains_ofSettings {settings : Settings} {type : String} :
    (ofSettings (σ := σ) settings).contains type ↔
      ∃ job ∈ standardJobs settings, job.type = type := by
  simp [ofSettings_eq, contains_ofHandlers]

theorem performs_of_find? {settings : Settings} {type : String} {route : Route σ}
    (h : (ofSettings settings).routes.find? type = some route) : route.Performs type := by
  rw [find?_ofSettings] at h
  obtain ⟨job, hJob, rfl⟩ := Option.map_eq_some_iff.1 h
  obtain ⟨-, rfl⟩ := Settings.job?_iff.1 hJob
  exact job.performs

/-- Types, routes and answers of a registry follow from the handlers that were registered. Only the
order of handlers of one type counts, and a handler is nothing to records of other types. The settings
say which of the standard types there are, and each has the handler of its own operation. -/
theorem registration_decides (layout : Layout) (handlers : List (AnyHandler σ)) :
    (ofHandlers layout handlers).Routes handlers ∧
    (∀ others : List (AnyHandler σ),
      (∀ type, handlers.filter (·.type = type) = others.filter (·.type = type)) →
      ofHandlers layout others = ofHandlers layout handlers) ∧
    (∀ (registry : Registry σ) (handler : AnyHandler σ) (record : JobRecord),
      record.handlerType ≠ handler.type →
      (∀ context state, (registry.register handler.route).execute record context state =
        registry.execute record context state) ∧
      ∀ state, (registry.register handler.route).delete record state =
        registry.delete record state) ∧
    (∀ first second : AnyHandler σ, first.type ≠ second.type →
      ((ofHandlers layout handlers).register first.route).register second.route =
        ((ofHandlers layout handlers).register second.route).register first.route) ∧
    ∀ settings : Settings,
      (∀ type, (ofSettings (σ := σ) settings).contains type ↔
        type ∈ ["activate-job-definition", "suspend-job-definition", "activate-processdefinition",
          "suspend-processdefinition"] ∨
        (settings.historyCleanup = true ∧ type = "history-cleanup") ∨
        (settings.batchHandlers = true ∧ type ∈ ["instance-migration", "instance-modification",
          "instance-restart", "set-job-retries", "set-external-task-retries",
          "historic-decision-instance-deletion"])) ∧
      ∀ (type : String) (route : Route σ),
        (ofSettings settings).routes.find? type = some route → route.Performs type := by
  refine ⟨routes_ofHandlers layout handlers,
    fun others h => (ofHandlers_eq_of_sameByType h).symm, fun registry handler record h => ?_,
    fun first second => register_comm, fun settings => ⟨fun type => ?_, fun type route =>
    performs_of_find?⟩⟩
  · have hRoute : (registry.register handler.route).route? record = registry.route? record := by
      rw [route?, route?, find?_register_of_ne h]
    exact ⟨fun context state => by rw [execute, execute, hRoute],
      fun state => by rw [delete, delete, hRoute]⟩
  · simp only [contains_ofSettings, standardJobs, List.mem_append, or_and_right, exists_or,
      or_assoc]
    refine or_congr ?_ (or_congr ?_ ?_)
    · simp [StandardJob.stateChanges, StandardJob.type, eq_comm]
    · cases settings.historyCleanup <;> simp [StandardJob.type, eq_comm]
    · cases settings.batchHandlers <;> simp [StandardJob.batches, StandardJob.type, eq_comm]

/-- A standard handler is replaced by one that reads any text, and stays beside one of another type. -/
theorem registration_decides_of_replaced :
    (ofHandlers .compact [.standard .historyCleanup, .answering "history-cleanup" (.ok ())]).execute
        (.bare "history-cleanup" "") (fun _ state => (.ok (), state)) () = (.ok (), ()) ∧
    ((ofHandlers .compact [.standard .historyCleanup]).register
        (AnyHandler.answering "timer" (.ok ())).route).execute
        (.bare "history-cleanup" "") (fun _ state => (.ok (), state)) () =
      (.error (.configuration .notJson), ()) ∧
    (ofHandlers .compact [.standard .historyCleanup]).delete (.bare "timer" "") () =
      (.error (.unknownHandler "timer"), ()) ∧
    ["timer", "history-cleanup"].mergeSort =
      (ofHandlers (σ := Unit) .compact
        [.answering "timer" (.ok ()), .standard .historyCleanup]).types ∧
    ofHandlers (σ := Unit) .compact [.standard .historyCleanup, .answering "timer" (.ok ())] =
      ofHandlers .compact [.answering "timer" (.ok ()), .standard .historyCleanup] ∧
    ((ofHandlers (σ := Unit) .compact [.standard .historyCleanup]).register
        (AnyHandler.answering "timer" (.ok ())).route).register
        (AnyHandler.standard .setJobRetries).route =
      ((ofHandlers .compact [.standard .historyCleanup]).register
        (AnyHandler.standard .setJobRetries).route).register
        (AnyHandler.answering "timer" (.ok ())).route ∧
    ∃ route : Route Unit, (ofSettings {}).routes.find? "set-job-retries" = some route ∧
      route.Performs "set-job-retries" := by
  obtain ⟨hReplaced, -⟩ := registration_decides (σ := Unit) .compact
    [.standard .historyCleanup, .answering "history-cleanup" (.ok ())]
  obtain ⟨hStandard, -, hOther, hComm, hSettings⟩ := registration_decides (σ := Unit) .compact
    [.standard .historyCleanup]
  obtain ⟨hBoth, hOrder, -⟩ := registration_decides (σ := Unit) .compact
    [.answering "timer" (.ok ()), .standard .historyCleanup]
  refine ⟨?_, ?_, ?_, ?_, ?_, ?_, ?_⟩
  · have hLast := hReplaced.last (.answering "history-cleanup" (.ok ()))
      ⟨[.standard .historyCleanup], [], rfl, nofun⟩ (.bare "history-cleanup" "") rfl
    exact (hLast.readable "" rfl).1 _ ()
  · have hLast := hStandard.last (.standard .historyCleanup) ⟨[], [], rfl, nofun⟩
      (.bare "history-cleanup" "") rfl
    rw [(hOther _ (.answering "timer" (.ok ())) (.bare "history-cleanup" "") (by decide)).1]
    exact (hLast.unreadable .notJson rfl).1 _ ()
  · refine (hStandard.unknown (.bare "timer" "") fun handler hMem => ?_).2 ()
    obtain rfl := List.mem_singleton.1 hMem
    decide
  · exact hBoth.sorted _ (by decide) (by simp [StandardJob.type, eq_comm])
  · refine hOrder _ fun type => ?_
    by_cases hTimer : "timer" = type
    · subst hTimer
      rfl
    · simp only [List.filter_cons, List.filter_nil, AnyHandler.type_answering, hTimer, decide_false,
        Bool.false_eq_true, if_false]
  · exact hComm _ _ (by decide)
  · exact ⟨_, rfl, (hSettings {}).2 _ _ rfl⟩

/-- An attempt may be answered as of an unknown type though a handler of the type is registered. -/
theorem execute_unknown_of_registered :
    (ofHandlers .compact [AnyHandler.answering "timer" (.error (.unknownHandler "timer"))]).contains
      (σ := Unit) "timer" ∧
    ¬ (((ofHandlers .compact
          [AnyHandler.answering "timer" (.error (.unknownHandler "timer"))]).execute
          (.bare "timer" "") (fun _ state => (.ok (), state)) ()).1 =
        .error (.unknownHandler "timer") ↔
      ∀ handler ∈ [AnyHandler.answering (σ := Unit) "timer" (.error (.unknownHandler "timer"))],
        handler.type ≠ "timer") := by
  refine ⟨rfl, fun h => ?_⟩
  exact h.1 rfl _ (List.mem_singleton.2 rfl) rfl

end Registry

end DeferredJobs
