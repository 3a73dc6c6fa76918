import RelStore.Shell.Program

/-!
# The command line

Reads the arguments, and the input line by line where the shell runs, and prints what the library
answers.
-/

open RelStore

/-- Reads a line, without its line feed and its backspaces carried out; none at the end of the
input. -/
def readLine? (input : IO.FS.Stream) : IO (Option String) := do
  let line ← input.getLine
  if line.isEmpty then return none
  else return some (Shell.typed ((Shell.linesOf line).headD ""))

/-- Prompts for lines and carries them out until the shell is left or the input ends, and gives the
exit code. -/
partial def converse (input output : IO.FS.Stream) (prompt : String) (c : Catalog) : IO UInt32 := do
  output.putStr prompt
  output.flush
  match ← readLine? input with
  | none => return 0
  | some line =>
    match Shell.step .insertion c line with
    | none => return Program.broughtDown.exitCode
    | some (printed, next) =>
      output.putStr printed
      match next with
      | some c => converse input output prompt c
      | none => return 0

/-- Runs the program with the arguments. -/
def main (arguments : List String) : IO UInt32 := do
  let output ← IO.getStdout
  match Platform.readOptions arguments with
  | .ok o =>
    if o.statements.isEmpty then
      output.putStr Shell.banner
      return ← converse (← IO.getStdin) output (o.prompt.getD Program.defaultPrompt)
        (Program.initialCatalog o.demo)
  | .error _ => pure ()
  let run := Program.run arguments ""
  output.putStr run.output
  IO.eprint run.complaint
  return run.exitCode
