import AtLeastOnce.Config.Environment
import AtLeastOnce.Config.Files
import AtLeastOnce.Config.Layers
import AtLeastOnce.Settings

/-!
# Loading settings

Settings come from a file that may be missing, a file that the environment names,
and the environment itself, each over the one before.
-/

namespace AtLeastOnce.Settings

open Config

/-- The file that is read if it is there. -/
def standardFile : String := "config/consumer"

/-- The variable that names another file. -/
def fileVariable : String := "SQS_CONSUMER_CONFIG"

/-- The files that may be read, each under its whole name. -/
def candidates (environment : Environment.Variables) : List String :=
  (standardFile :: (environment.lookup fileVariable).toList).flatMap fun name =>
    name :: endings.map fun (ending, _) => name ++ "." ++ ending

/-- Why there are no settings. -/
inductive LoadFault where
  | source (error : LoadError)
  | content (misfit : Misfit)
  deriving DecidableEq, Repr

def LoadFault.message : LoadFault → String
  | .source error => error.message
  | .content misfit => misfit.message

/-- The entries of the file that the environment names, if it names one. -/
def namedFile (files : Files) (environment : Environment.Variables) :
    Except LoadError Entries :=
  match environment.lookup fileVariable with
  | none => .ok []
  | some name => if name = "" then .ok [] else files.require name

/-- The sources of the settings, later ones above earlier ones. -/
def sources (files : Files) (environment : Environment.Variables) :
    Except LoadError (List Entries) := do
  let base ← files.allow standardFile
  let named ← namedFile files environment
  return [base, named, Environment.entries environment]

/-- The settings that some files and the environment hold. -/
def load (files : Files) (environment : Environment.Variables) : Except LoadFault Settings :=
  match sources files environment with
  | .error error => .error (.source error)
  | .ok sources =>
      match Settings.ofEntries (layers sources) with
      | .error misfit => .error (.content misfit)
      | .ok settings => .ok settings

end AtLeastOnce.Settings
