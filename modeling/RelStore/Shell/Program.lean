import RelStore.Shell.Line
import RelStore.Shell.Platform

/-!
# The program

The program on the platform that it comes with: arguments are read as `Options` says, lines as
`Shell.readLines` does, and rows are sorted by insertion.
-/

namespace RelStore

/-- The text that the version option prints. -/
def Program.versionText : String := "minisql 0.1.0\n"

/-- The options that arguments amount to, or the run that prints the version or the refusal. -/
def Platform.readOptions (arguments : List String) : Except Program.Run Options :=
  match Options.ofArguments arguments with
  | .ok (.run o) => .ok o
  | .ok .version => .error { output := Program.versionText }
  | .error e => .error { output := "", complaint := e.message ++ "\n", exitCode := 2 }

/-- The platform that the program comes with. -/
def Platform.standard : Platform where
  readArguments := readOptions
  lineEditor := .ok Shell.readLines
  sorter := .insertion

/-- What is left of a run that was brought down.  Whatever it had printed is not kept. -/
def Program.broughtDown : Program.Run :=
  { output := "", exitCode := 101 }

/-- The run of the program with the arguments on an input. -/
def Program.run (arguments : List String) (input : String) : Program.Run :=
  (Platform.standard.run arguments input).getD broughtDown

end RelStore
