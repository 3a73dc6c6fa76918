import RelStore.Shell.Basic
import RelStore.Shell.Options

/-!
# Runs of the program

A run either carries out the statements of the command line, and fails if any of them does, or is
a session of the shell.  What is printed for a statement is the same in both.

What the program finds around it is a `Platform`: something that reads the arguments, a line editor,
and a sort.  A run is none if a statement brings the program down.
-/

namespace RelStore

namespace Program

/-- What a run prints and how it ends. -/
structure Run where
  output : String
  /-- What is printed as a complaint. -/
  complaint : String := ""
  exitCode : UInt32 := 0
deriving DecidableEq, Repr

/-- The prompt of the shell unless another is given. -/
def defaultPrompt : String := "sql> "

/-- The statements that make the demonstration table. -/
def demoStatements : List String := [
  "CREATE TABLE users (id INT PRIMARY KEY, department TEXT, role TEXT, salary INT)",
  "INSERT INTO users (id, department, role, salary) VALUES (1, 'Sales', 'Manager', 5000)",
  "INSERT INTO users (id, department, role, salary) VALUES (2, 'Sales', 'Rep', 3000)",
  "INSERT INTO users (id, department, role, salary) VALUES (3, 'Sales', 'Rep', null)",
  "INSERT INTO users (id, department, role, salary) VALUES (4, 'HR', 'Manager', 4500)",
  "INSERT INTO users (id, department, role, salary) VALUES (5, 'HR', 'Rep', undefined)",
  "INSERT INTO users (id, department, role, salary) VALUES (6, 'HR', null, 2900)"]

/-- The catalog that a run begins with.  None of the statements of the demonstration fails. -/
def initialCatalog (demo : Bool) : Catalog :=
  if demo then (Session.executeAll ∅ demoStatements).2 else ∅

/-- Whether an answer is an error. -/
def failed : Except Error Outcome → Bool
  | .ok _ => false
  | .error _ => true

end Program

open Program

/-- What the program finds around it. -/
structure Platform where
  /-- The options that arguments amount to, or else the run that they end in at once. -/
  readArguments : List String → Except Run Options
  /-- A line editor: what it gives, with a prompt, on an input.  The message says why there is
  none. -/
  lineEditor : Except String (String → String → Shell.Readings)
  /-- The sort of rows. -/
  sorter : Sorter

namespace Platform

/-- The run that carries out statements. -/
def runStatements (p : Platform) (c : Catalog) (statements : List String) : Option Run :=
  (Shell.carryOutAll p.sorter c statements).map fun answers =>
    let output := String.join (answers.map Shell.report)
    let failures := answers.countP failed
    if failures = 0 then { output }
    else
      { output
        complaint := "Error: " ++ failures.repr ++ " of " ++ statements.length.repr ++
          " statements failed\n"
        exitCode := 1 }

/-- The run that is a session of the shell on an input. -/
def runShell (p : Platform) (c : Catalog) (prompt input : String) : Option Run :=
  match p.lineEditor with
  | .ok read => (Shell.transcript p.sorter c (read prompt input)).map fun printed =>
    { output := Shell.banner ++ printed }
  | .error message =>
    some { output := Shell.banner, complaint := "Error: " ++ message ++ "\n", exitCode := 1 }

/-- The run with the options on an input. -/
def runOptions (p : Platform) (o : Options) (input : String) : Option Run :=
  let c := initialCatalog o.demo
  if o.statements.isEmpty then p.runShell c (o.prompt.getD defaultPrompt) input
  else p.runStatements c o.statements

/-- The run with the arguments on an input. -/
def run (p : Platform) (arguments : List String) (input : String) : Option Run :=
  match p.readArguments arguments with
  | .ok o => p.runOptions o input
  | .error run => some run

end Platform

end RelStore
