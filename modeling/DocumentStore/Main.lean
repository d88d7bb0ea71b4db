import DocumentStore.Command.Run
import DocumentStore.PercentEncoding

/-!
# The program

Reads the arguments, the environment and the files that the arguments name, runs the command and
prints what it says. No database driver is part of this build, so that connecting always fails.
-/

set_option autoImplicit false

namespace DocumentStore.Program

/-- A driver that refuses every request. -/
def noDriver : Driver Unit := fun _ _ => (.error "no database driver is available", ())

/-- The variables of the settings that the environment has. -/
def environment : IO Variables := do
  let mut found := []
  for (key, _) in Settings.standard.toEntries do
    let name := Settings.variablePrefix ++ key.display
    for name in [name, name.toUpper] do
      if let some value ← IO.getEnv name then found := found ++ [(name, value)]
  return found

/-- The texts of the files that arguments name. -/
def files (args : List String) : IO Command.Files := do
  let mut found := []
  for arg in args do
    try
      let text ← IO.FS.readFile arg
      found := found ++ [(arg, text)]
    catch _ => pure ()
  return found

/-- The console of the program. -/
def console : Command.Console := .withoutSequences

/-- What goes to the error output at the end of a run. -/
def complaint : Command.Ending → String
  | .success => ""
  | .misuse reason => "Error: " ++ reason.getD "the arguments do not fit; see --help" ++ "\n"
  | .reported message => console.shown message
  | .fault f => f.message ++ "\n"

/-- Runs the program. -/
def run (args : List String) : IO UInt32 := do
  let env ← environment
  let files ← files args
  let world : World Unit Empty Unit := World.start () ()
  let (outcome, _) := Command.run .percentEncoding env noDriver files args world
  IO.print (outcome.shown console)
  IO.eprint (complaint outcome.ending)
  return outcome.status.toUInt32

end DocumentStore.Program

/-- The entry point. -/
def main (args : List String) : IO UInt32 := DocumentStore.Program.run args
