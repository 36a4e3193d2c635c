import DeferredJobs.Inspect.Payload

/-!
# Dry runs

A dry run takes the type and the configuration of a job from the command line, runs the job
against a recorder, and shows the commands it would have submitted. The configuration `-` stands
for the standard input.

A job that is tried out has no id worth showing; a mark stands in its place.
-/

namespace DeferredJobs.DryRun

/-! ## Arguments -/

structure Arguments where
  handlerType : String
  configuration : String
  tenant : Option String
  deriving DecidableEq

/-- The arguments read so far, the positional ones last first. -/
structure Draft where
  positionals : List String := []
  tenant : Option String := none

/-- What an argument is for, when it is not the value of an option. -/
inductive Role where
  | positional
  /-- The tenant follows as an argument of its own. -/
  | tenant
  | tenantValue (value : String)
  /-- All that follows is positional. -/
  | endOfOptions
  | unknown

/-- The text after an optional equals sign. -/
def attachedValue : List Char → String
  | '=' :: value => String.ofList value
  | value => String.ofList value

def role (argument : String) : Role :=
  match argument.toList with
  | ['-', '-'] => .endOfOptions
  | ['-', 't'] => .tenant
  | '-' :: 't' :: value => .tenantValue (attachedValue value)
  | '-' :: '-' :: long =>
    let name := long.takeWhile (· != '=')
    if name = "tenant".toList then
      match long.dropWhile (· != '=') with
      | [] => .tenant
      | _ :: value => .tenantValue (String.ofList value)
    else .unknown
  | '-' :: _ :: _ => .unknown
  | _ => .positional

/-- An argument can be the value of an option unless it looks like an option itself. -/
def canBeValue (argument : String) : Bool :=
  match argument.toList with
  | '-' :: _ :: _ => false
  | _ => true

/-- The tenant may be given once. -/
def Draft.withTenant? (draft : Draft) (tenant : String) : Option Draft :=
  if draft.tenant.isSome then none else some { draft with tenant := some tenant }

def Draft.read? (draft : Draft) : List String → Option Draft
  | [] => some draft
  | argument :: rest =>
    match role argument, rest with
    | .positional, rest =>
      Draft.read? { draft with positionals := argument :: draft.positionals } rest
    | .tenantValue value, rest => (draft.withTenant? value).bind (·.read? rest)
    | .tenant, value :: rest =>
      if canBeValue value then (draft.withTenant? value).bind (·.read? rest) else none
    | .endOfOptions, rest => some { draft with positionals := rest.reverse ++ draft.positionals }
    | .tenant, [] | .unknown, _ => none

/-- Reads a command line; none if it is not used as intended. -/
def Arguments.read? (arguments : List String) : Option Arguments := do
  let draft ← Draft.read? {} arguments
  match draft.positionals with
  | [configuration, handlerType] => return { handlerType, configuration, tenant := draft.tenant }
  | _ => none

def usage : String :=
  "usage: jobcfg-dry-run [-t TENANT] HANDLER-TYPE CONFIGURATION"

/-! ## Running -/

structure Outcome where
  exitCode : UInt8
  output : String
  /-- What is reported of a failure; a wrong use of the command line has no report. -/
  report : Option String
  deriving DecidableEq

/-- A message below a heading: every line is indented. -/
def indentLines (message : String) : String :=
  String.ofList (message.toList.flatMap fun c => if c = '\n' then "\n    ".toList else [c])

def failure (report : String) : Outcome where
  exitCode := 1
  output := ""
  report := some (String.ofList (Text.trimEnd report.toList))

def unknownType (type : String) (known : List String) : Outcome :=
  failure ("Error: unknown handler type `" ++ type ++ "`; known types: " ++
    String.intercalate ", " known)

def failedJob (error : JobError) : Outcome :=
  failure ("Error: job <id> failed\n\nCaused by:\n    " ++ indentLines error.message)

def shown (command : EngineCommand) : String :=
  command.name ++ ": " ++ command.picture.text .indented ++ "\n"

/-- The job of a dry run. Its id and the time of its creation do not matter. -/
def job (arguments : Arguments) (configuration : String) : JobRecord where
  id := ⟨0⟩
  handlerType := arguments.handlerType
  configuration := configuration
  tenant := arguments.tenant
  createdAt := ⟨0, 0⟩

def attempt (registry : Registry Recorder) (arguments : Arguments) (configuration : String) :
    Outcome :=
  match registry.execute (job arguments configuration) Recorder.context {} with
  | (.error e, _) => failedJob e
  | (.ok (), recorder) => ⟨0, String.join (recorder.commands.map shown), none⟩

/-- A whole run. The standard input is only read where the configuration is taken from it. -/
def run {m : Type → Type} [Monad m] (environment : Environment) (input : m String)
    (arguments : List String) : m Outcome :=
  match Arguments.read? arguments with
  | none => pure ⟨2, "", none⟩
  | some arguments =>
    let registry := Registry.ofSettings (Settings.ofEnvironment environment)
    if !registry.contains arguments.handlerType then
      pure (unknownType arguments.handlerType registry.types)
    else if arguments.configuration = "-" then do
      return attempt registry arguments (← input)
    else pure (attempt registry arguments arguments.configuration)

end DeferredJobs.DryRun
