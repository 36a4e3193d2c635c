import DeferredJobs.Job.Registry

/-!
# Routing

Among routes of one type the one registered last is found. The types of the standard jobs are
distinct, so a record is routed to the one job of its type, if the settings ask for this job at
all.

* `Registry.find?_registerAll`: the last route of a type wins over earlier ones.
* `Registry.find?_ofSettings`: the route of a type is that of the job of this type.
* `Registry.execute_of_find?`, `Registry.execute_of_absent`: the route of a record decides.
* `Registry.execute_of_job?`, `Registry.delete_of_job?`: what the job of its type makes of a
  record.
-/

namespace DeferredJobs

/-! ## Types and jobs -/

namespace StandardJob

theorem mem_all (job : StandardJob) : job ∈ all := by
  cases job <;> decide

theorem ofType?_type (job : StandardJob) : ofType? job.type = some job := by
  cases job <;> rfl

theorem type_inj {a b : StandardJob} (h : a.type = b.type) : a = b := by
  have hFound := ofType?_type a
  rw [h, ofType?_type b] at hFound
  exact (Option.some.inj hFound).symm

theorem find?_type_iff {jobs : List StandardJob} {type : String} {job : StandardJob} :
    jobs.find? (·.type == type) = some job ↔ job ∈ jobs ∧ job.type = type := by
  constructor
  · intro h
    have hType := List.find?_some h
    exact ⟨List.mem_of_find?_eq_some h, eq_of_beq hType⟩
  · rintro ⟨hMem, hType⟩
    have hSome : (jobs.find? (·.type == type)).isSome :=
      List.find?_isSome.2 ⟨job, hMem, beq_iff_eq.2 hType⟩
    obtain ⟨found, hFound⟩ := Option.isSome_iff_exists.1 hSome
    have hFoundType : found.type = type := by simpa using List.find?_some hFound
    rw [hFound, type_inj (hFoundType.trans hType.symm)]

end StandardJob

/-- The job of a type, if the settings ask for it. -/
def Settings.job? (settings : Settings) (type : String) : Option StandardJob :=
  (Registry.standardJobs settings).find? (·.type == type)

theorem Settings.job?_iff {settings : Settings} {type : String} {job : StandardJob} :
    settings.job? type = some job ↔ job ∈ Registry.standardJobs settings ∧ job.type = type :=
  StandardJob.find?_type_iff

/-- Unless told otherwise, the settings ask for every job. -/
theorem Settings.job?_type (layout : Layout) (job : StandardJob) :
    Settings.job? { layout } job.type = some job :=
  job?_iff.2 ⟨job.mem_all, rfl⟩

/-! ## Registration -/

namespace Registry

variable {σ : Type}

theorem find?_register (registry : Registry σ) (route : Route σ) (type : String) :
    (registry.register route).routes.find? type =
      if type = route.type then some route else registry.routes.find? type :=
  Entries.find?_insert registry.routes route.type type route

theorem find?_registerAll (registry : Registry σ) (routes : List (Route σ)) (type : String) :
    (registry.registerAll routes).routes.find? type =
      (routes.reverse.find? (·.type == type)).or (registry.routes.find? type) := by
  induction routes generalizing registry with
  | nil => rfl
  | cons route rest ih =>
    have hStep : registry.registerAll (route :: rest) =
        (registry.register route).registerAll rest := rfl
    rw [hStep, ih, find?_register, List.reverse_cons, List.find?_append, Option.or_assoc]
    congr 1
    by_cases hType : type = route.type
    · simp [hType]
    · have hOther : (route.type == type) = false := by simpa using Ne.symm hType
      simp [hType, hOther]

/-- In a list without repeated types the first and the last hit are the same. -/
theorem find?_routes (jobs : List StandardJob) (type : String) :
    (jobs.map fun job => (job.handler (σ := σ)).route).reverse.find? (·.type == type) =
      (jobs.find? (·.type == type)).map (·.handler.route) := by
  have hReverse : jobs.reverse.find? (·.type == type) = jobs.find? (·.type == type) := by
    refine Option.ext fun job => ?_
    rw [StandardJob.find?_type_iff, StandardJob.find?_type_iff, List.mem_reverse]
  rw [← List.map_reverse, List.find?_map, ← hReverse]
  rfl

theorem find?_ofSettings (settings : Settings) (type : String) :
    (ofSettings (σ := σ) settings).routes.find? type =
      (settings.job? type).map (·.handler.route) := by
  rw [ofSettings, find?_registerAll, find?_routes]
  exact Option.or_none

section Route

variable {registry : Registry σ} {record : JobRecord}

theorem execute_of_find? {route : Route σ}
    (h : registry.routes.find? record.handlerType = some route) (context : CommandContext σ)
    (state : σ) : registry.execute record context state = route.run record context state := by
  rw [execute, route?, h]

theorem delete_of_find? {route : Route σ}
    (h : registry.routes.find? record.handlerType = some route) (state : σ) :
    registry.delete record state = route.delete record state := by
  rw [delete, route?, h]

theorem execute_of_absent (h : registry.routes.find? record.handlerType = none)
    (context : CommandContext σ) (state : σ) :
    registry.execute record context state =
      (.error (.unknownHandler record.handlerType), state) := by
  rw [execute, route?, h]

theorem delete_of_absent (h : registry.routes.find? record.handlerType = none) (state : σ) :
    registry.delete record state = (.error (.unknownHandler record.handlerType), state) := by
  rw [delete, route?, h]

end Route

variable {settings : Settings} {record : JobRecord}

theorem execute_of_job? {job : StandardJob} (h : settings.job? record.handlerType = some job)
    (context : CommandContext σ) (state : σ) :
    (ofSettings settings).execute record context state =
      job.handler.route.run record context state :=
  execute_of_find? (by rw [find?_ofSettings, h]; rfl) context state

theorem delete_of_job? {job : StandardJob} (h : settings.job? record.handlerType = some job)
    (state : σ) :
    (ofSettings settings).delete record state = job.handler.route.delete record state :=
  delete_of_find? (by rw [find?_ofSettings, h]; rfl) state

theorem execute_of_unknown (h : settings.job? record.handlerType = none)
    (context : CommandContext σ) (state : σ) :
    (ofSettings settings).execute record context state =
      (.error (.unknownHandler record.handlerType), state) :=
  execute_of_absent (by rw [find?_ofSettings, h]; rfl) context state

theorem delete_of_unknown (h : settings.job? record.handlerType = none) (state : σ) :
    (ofSettings settings).delete record state =
      (.error (.unknownHandler record.handlerType), state) :=
  delete_of_absent (by rw [find?_ofSettings, h]; rfl) state

end Registry

end DeferredJobs
