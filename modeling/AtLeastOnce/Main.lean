import AtLeastOnce.Log.Line
import AtLeastOnce.Program.Listener
import AtLeastOnce.Program.Worker

/-!
# The command line

The first argument says which program runs.  Files and variables are those of the
process; there is no network, so that no port can be taken and no call comes through.
-/

namespace AtLeastOnce.Program

/-- The contents of a file, if it can be read. -/
def readFile? (path : String) : IO (Option String) := do
  try
    return some (← IO.FS.readFile path)
  catch _ =>
    return none

/-- The variable that a setting of the form name=value sets. -/
def splitSetting? (setting : String) : Option (String × String) :=
  let name := setting.toList.takeWhile (· ≠ '=')
  match setting.toList.dropWhile (· ≠ '=') with
  | _ :: value => some (String.ofList name, String.ofList value)
  | [] => none

/-- The variables of the process. -/
def readVariables : IO Config.Environment.Variables := do
  let text ← readFile? "/proc/self/environ"
  let settings := ((text.getD "").toList.splitOn '\x00').map String.ofList
  return settings.filterMap splitSetting?

/-- Those files that are there. -/
def readFiles (paths : List String) : IO Config.Files := do
  let files ← paths.mapM fun path => do
    let text ← readFile? path
    return text.map fun text => (path, text)
  return files.filterMap id

/-- What the process finds. -/
def readSurroundings : IO Surroundings := do
  let environment ← readVariables
  let variableFiles ← readFiles [Config.VariableFile.standardFile]
  let all := (Surroundings.mk variableFiles environment).allVariables
  let files ← readFiles (Settings.candidates all)
  return ⟨variableFiles ++ files, environment⟩

def noNetwork : String := "there is no network"

/-- Runs a program without a network. -/
def runAlone? (role : Role) (surroundings : Surroundings) : Option Ending :=
  match role with
  | .worker =>
      Worker.run? surroundings
        { service := fun _ => .unreachable (.dispatch noNetwork)
          sampler := fun _ _ => .zero
          arrival? := none } 0
  | .listener => Listener.run? surroundings (fun _ => .error noNetwork) none

/-- The program that the arguments ask for. -/
def Role.ofArguments? : List String → Option Role
  | ["worker"] => some .worker
  | ["http"] => some .listener
  | _ => none

end AtLeastOnce.Program

/-- Runs the program that the arguments ask for. -/
def main (arguments : List String) : IO UInt32 := do
  match AtLeastOnce.Program.Role.ofArguments? arguments with
  | none =>
      IO.eprintln "usage: worker | http"
      return 2
  | some role =>
      let surroundings ← AtLeastOnce.Program.readSurroundings
      match AtLeastOnce.Program.runAlone? role surroundings with
      | none => return 0
      | some ending =>
          for complaint in ending.complaints do
            IO.eprintln complaint
          for entry in ending.log do
            IO.println (entry.line ending.json)
          return ending.exitCode.toUInt32
