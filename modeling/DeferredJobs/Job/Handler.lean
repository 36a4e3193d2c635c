import DeferredJobs.Engine.Command
import DeferredJobs.Job.Record
import DeferredJobs.Json.Printer

/-!
# Job handlers

A handler reads the configurations of the jobs of its type, runs them in a command context, and
may take note when a job is deleted before it ran. Its state, if it has one, is that of the
context.
-/

namespace DeferredJobs

/-- Why an attempt at a job failed. -/
inductive JobError where
  | configuration (error : ConfigurationError)
  | command (error : CommandError)
  | unknownHandler (type : String)
  deriving DecidableEq

def JobError.message : JobError → String
  | configuration error => error.message
  | command error => error.message
  | unknownHandler type => "no job handler registered for type `" ++ type ++ "`"

/-- A handler of jobs whose configurations are of type `α`, for contexts with a state of type
`σ`. -/
structure JobHandler (σ α : Type) where
  /-- The type of the jobs that are routed to this handler. -/
  type : String
  read : String → Except ConfigurationError α
  /-- The canonical text of a configuration. -/
  write : Layout → α → String
  execute (configuration : α) (execution tenant : Option String) (context : CommandContext σ)
    (state : σ) : Except JobError Unit × σ
  onDelete : α → JobRecord → σ → σ

/-- What is done with the jobs of a type, from their texts on. -/
structure Route (σ : Type) where
  type : String
  /-- One attempt at a job. -/
  run : JobRecord → CommandContext σ → σ → Except JobError Unit × σ
  delete : JobRecord → σ → Except JobError Unit × σ

namespace JobHandler

variable {σ α : Type}

/-- The configuration is read anew for every attempt and for a deletion. -/
def route (handler : JobHandler σ α) : Route σ where
  type := handler.type
  run job context state :=
    match handler.read job.configuration with
    | .error e => (.error (.configuration e), state)
    | .ok configuration => handler.execute configuration job.execution job.tenant context state
  delete job state :=
    match handler.read job.configuration with
    | .error e => (.error (.configuration e), state)
    | .ok configuration => (.ok (), handler.onDelete configuration job state)

/-- A handler of a format whose configurations each amount to one command or to none. -/
def ofCommand (type : String) (format : Format α) (command : α → Except JobError EngineCommand) :
    JobHandler σ α where
  type := type
  read := format.parse
  write := format.canonical
  execute configuration _ _ context state :=
    match command configuration with
    | .error e => (.error e, state)
    | .ok command =>
      match context command state with
      | (.error e, state) => (.error (.command e), state)
      | (.ok (), state) => (.ok (), state)
  onDelete _ _ state := state

end JobHandler

end DeferredJobs
