import Folio.Command.Run

/-!
# The program

The command on the machine that it runs on.

## Main definitions

* `machine` — the machine as the surroundings of the command.
* `main` — the program.
-/

namespace Folio

/-- A code of the machine, which may come with either sign. -/
def isCode (n code : UInt32) : Bool := code == n || 0 - code == n

/-- Why the machine cannot read or write a file. -/
def FileError.ofSystem : IO.Error → FileError
  | .noFileOrDirectory .. => .missing
  | .inappropriateType _ code details =>
    if isCode 20 code then .notDirectory
    else if isCode 21 code then .isDirectory
    else .other details
  | .invalidArgument _ code details => if isCode 36 code then .longName else .other details
  | e => .other (toString e)

/-- Runs an action; its error is a value. -/
def attempt {α : Type} (action : IO α) : IO (Except FileError α) := do
  try return .ok (← action)
  catch e => return .error (.ofSystem e)

/-- The machine as the surroundings of the command. -/
def machine : Host IO where
  directory := do return toString (← IO.currentDir)
  lookup name := IO.getEnv name
  isPresent path := do
    match ← attempt (IO.FS.realPath path) with
    | .ok _ => return true
    | .error _ => return false
  read path := do
    match ← attempt (IO.FS.readBinFile path) with
    | .ok bytes => return textOf bytes
    | .error e => return .error e
  readInput := do
    match ← attempt ((← IO.getStdin).readBinToEnd) with
    | .ok bytes => return textOf bytes
    | .error e => return .error e
  write path text := attempt (IO.FS.writeFile path text)

end Folio

/-- The program. -/
def main (arguments : List String) : IO UInt32 := do
  let outcome ← Folio.machine.run arguments
  (← IO.getStderr).putStr outcome.errors
  (← IO.getStdout).putStr outcome.output
  return outcome.code.toUInt32
