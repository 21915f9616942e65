import AtLeastOnce.Config.VariableFile
import AtLeastOnce.Log.Filter
import AtLeastOnce.Settings.Load

/-!
# Starting a process

A process takes variables from its environment and from a file, then its settings,
and ends at once when they cannot be used.
-/

namespace AtLeastOnce.Program

inductive Role where
  /-- Receives messages and handles them. -/
  | worker
  /-- Answers requests about its health. -/
  | listener
  deriving DecidableEq, Repr

def Role.name : Role → String
  | .worker => "sqs-consumer-worker"
  | .listener => "sqs-consumer-http"

/-- What a process finds when it starts. -/
structure Surroundings where
  files : Config.Files
  environment : Config.Environment.Variables

/-- How a process ended. -/
structure Ending where
  exitCode : Nat
  /-- What was written besides the log. -/
  complaints : List String
  /-- The entries that were let through to the log. -/
  log : List LogEntry
  /-- Whether the log was written as JSON. -/
  json : Bool

inductive Signal where
  | interrupt
  | terminate
  | quit
  deriving DecidableEq, Repr

def Signal.name : Signal → String
  | .interrupt => "SIGINT"
  | .terminate => "SIGTERM"
  | .quit => "SIGQUIT"

/-- A signal and the moment at which it arrives. -/
structure Arrival where
  signal : Signal
  time : Nat
  deriving DecidableEq, Repr

/-- The variables together with those of the file. -/
def Surroundings.allVariables (surroundings : Surroundings) : Config.Environment.Variables :=
  match surroundings.files.contents? [Config.VariableFile.standardFile] with
  | some text => Config.VariableFile.add surroundings.environment text
  | none => surroundings.environment

/-- The rule for the settings of a program that they do not keep. -/
def Role.invalid? (role : Role) (settings : Settings) : Option InvalidSettings :=
  match role with
  | .worker => settings.invalidForWorker?
  | .listener => settings.invalidForHttp?

/-- The settings of a program, or why it cannot start. -/
def usableSettings (role : Role) (surroundings : Surroundings) : Except Failure Settings :=
  match Settings.load surroundings.files surroundings.allVariables with
  | .error fault => .error (.configuration fault.message)
  | .ok settings => (Settings.check (role.invalid? settings)).map fun _ => settings

/-- The end of a process that could not start. -/
def refusal (role : Role) (failure : Failure) : Ending :=
  { exitCode := failure.exitCode
    complaints := [role.name ++ ": " ++ failure.message]
    log := []
    json := false }

/-- The filter of the log of a process. -/
def logFilter (surroundings : Surroundings) (settings : Settings) : LogFilter :=
  LogFilter.choose (surroundings.allVariables.lookup LogFilter.variableName) settings.log.level

/-- The end of a process that had started. -/
def conclusion (surroundings : Surroundings) (settings : Settings) (exitCode : Nat)
    (log : List LogEntry) : Ending :=
  { exitCode
    complaints := []
    log := log.filter (logFilter surroundings settings).admits
    json := settings.log.json }

end AtLeastOnce.Program
