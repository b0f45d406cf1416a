/-
# The program

Reads arguments, files and the environment, runs the command and prints what it answers. No network
is attached.
-/

import StackDeploy.CommandLine.Run
import StackDeploy.Provider.Offline

namespace StackDeploy.CommandLine

/-- What went wrong with a file. -/
def readErrorOf : IO.Error → ReadError
  | .noFileOrDirectory .. => .notFound
  | .inappropriateType _ 21 _ => .isFolder
  | .inappropriateType .. => .notFolder
  | .userError _ => .notText
  | cause => .reported cause.toString

/-- Reads a file. -/
def readPath (path : String) : IO (Except ReadError String) := do
  try
    let text ← IO.FS.readFile ⟨path⟩
    pure (.ok text)
  catch cause => pure (.error (readErrorOf cause))

/-- The variables of the environment that the settings are read from. -/
def knownVariables : List String :=
  Settings.pathVariable :: Settings.variableNames

/-- The program's surroundings. -/
def surroundings : Surroundings IO where
  textAt path :=
    match checkPath path with
    | .error cause => pure (.error cause)
    | .ok () => readPath path
  findText path := do
    let text ← readPath path
    pure text.toOption
  environment := do
    let found ← knownVariables.filterMapM fun name => do
      let value ← IO.getEnv name
      pure (value.map fun text => (name, text))
    pure found
  network := .offline
  pause seconds := IO.sleep (1000 * seconds).toUInt32

end StackDeploy.CommandLine

/-- Runs the program. -/
def main (args : List String) : IO UInt32 := do
  let ending ← StackDeploy.CommandLine.surroundings.run args
  IO.print ending.output
  IO.eprint ending.errors
  pure ending.exitCode.toUInt32
