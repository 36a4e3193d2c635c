import DeferredJobs.Job.Settings
import DeferredJobs.Job.Standard

/-!
# The registry

Jobs are routed by their type. What is registered under a type replaces what was there before,
and the order of registration does not show otherwise.
-/

namespace DeferredJobs

structure Registry (σ : Type) where
  layout : Layout
  routes : Entries (Route σ) := []

namespace Registry

variable {σ : Type}

def register (registry : Registry σ) (route : Route σ) : Registry σ :=
  { registry with routes := registry.routes.insert route.type route }

def registerAll (registry : Registry σ) (routes : List (Route σ)) : Registry σ :=
  routes.foldl register registry

def contains (registry : Registry σ) (type : String) : Bool :=
  registry.routes.contains type

/-- The registered types, in ascending order. -/
def types (registry : Registry σ) : List String :=
  registry.routes.names

/-- The jobs that settings ask for. -/
def standardJobs (settings : Settings) : List StandardJob :=
  StandardJob.stateChanges ++ (if settings.historyCleanup then [.historyCleanup] else []) ++
    (if settings.batchHandlers then StandardJob.batches else [])

def ofSettings (settings : Settings) : Registry σ :=
  registerAll { layout := settings.layout } ((standardJobs settings).map (·.handler.route))

def route? (registry : Registry σ) (job : JobRecord) : Except JobError (Route σ) :=
  match registry.routes.find? job.handlerType with
  | some route => .ok route
  | none => .error (.unknownHandler job.handlerType)

/-- One attempt at a job. -/
def execute (registry : Registry σ) (job : JobRecord) (context : CommandContext σ) (state : σ) :
    Except JobError Unit × σ :=
  match registry.route? job with
  | .error e => (.error e, state)
  | .ok route => route.run job context state

/-- Tells the handler of a job that the job is deleted. -/
def delete (registry : Registry σ) (job : JobRecord) (state : σ) : Except JobError Unit × σ :=
  match registry.route? job with
  | .error e => (.error e, state)
  | .ok route => route.delete job state

end Registry

end DeferredJobs
