import RelStore.Outcome.Grid
import RelStore.Session
import RelStore.Text.AsciiCase
import RelStore.Text.Blank

/-!
# The shell

The shell takes one line at a time from a line editor and trims its ends.  A line is a command of
the shell's own, in any letter case, or else a statement; an empty one is passed over.  Whatever a
statement answers is printed, failures included, and the shell goes on until it is told to leave or
there are no more lines.

`Shell.transcript` is everything that is printed from the first prompt on.  Statements that bring
the program down, while rows are sorted or while the answer is printed, leave no transcript.
-/

namespace RelStore

namespace Shell

/-! ## Statements -/

/-- What is printed about the answer to a statement, with its line end. -/
def report : Except Error Outcome → String
  | .ok outcome => outcome.toText ++ "\n"
  | .error e => "Error: " ++ e.message ++ "\n"

/-- Whether the answer to a statement can be printed. -/
def printable : Except Error Outcome → Bool
  | .ok outcome => outcome.Printable
  | .error _ => true

/-- Carries out a statement whose answer is then printed: what it answers, and the catalog
afterwards; none if either brings the program down. -/
def carryOut (sorter : Sorter) (c : Catalog) (sql : String) :
    Option (Except Error Outcome × Catalog) :=
  (Session.executeWith sorter c sql).filter fun result => printable result.1

/-- Carries out statements in order: what each answers. -/
def carryOutAll (sorter : Sorter) (c : Catalog) : List String → Option (List (Except Error Outcome))
  | [] => some []
  | sql :: rest => do
    let (answer, c) ← carryOut sorter c sql
    return answer :: (← carryOutAll sorter c rest)

/-! ## Lines -/

/-- What a line asks for. -/
inductive Command where
  /-- To leave the shell. -/
  | leave
  /-- To show what the shell understands. -/
  | help
  /-- To list the tables. -/
  | tables
  /-- To carry out a statement. -/
  | statement (sql : String)
deriving DecidableEq, Repr

/-- The command of a line, none if nothing but blanks is left of it.

Letter case is that of ASCII.  The only other character that is a small ASCII letter in lower case
is the Kelvin sign, and no command has a `k`. -/
def Command.ofLine? (line : String) : Option Command :=
  let line := Text.trim line
  if line.isEmpty then none
  else
    let word := Text.lowerAscii line
    if word = "exit" ∨ word = "quit" then some .leave
    else if word = "help" then some .help
    else if word = "tables" then some .tables
    else some (.statement line)

/-- The line that opens a session. -/
def banner : String :=
  "minisql started. Type 'help' for assistance or 'exit' to quit.\n"

/-- What the shell understands. -/
def helpText : String :=
  "Statements:\n" ++
  "  CREATE TABLE <t> (<col> INT|TEXT|BOOLEAN [PRIMARY KEY], ...)\n" ++
  "  INSERT INTO <t> (<cols>) VALUES (<values>)\n" ++
  "  SELECT [DISTINCT] <cols> FROM <t> [[AS] a]\n" ++
  "      [[INNER|LEFT|RIGHT|FULL] JOIN <t> [[AS] b] ON a.x = b.y]...\n" ++
  "      [WHERE ...] [GROUP BY <cols>] [HAVING ...]\n" ++
  "      [ORDER BY <col> [ASC|DESC]] [LIMIT n] [OFFSET n]\n" ++
  "  UPDATE <t> SET <col> = <value>, ... [WHERE <col> = <value>]\n" ++
  "  DELETE FROM <t> WHERE <col> = <value>\n" ++
  "\n" ++
  "Aggregates: COUNT(*), COUNT(col), SUM(col), AVG(col), MIN(col), MAX(col)\n" ++
  "Conditions: <col> =|>|<|>=|<= <value>, joined by AND or by OR\n" ++
  "\n" ++
  "  tables  list the tables\n" ++
  "  help    show this message\n" ++
  "  exit    leave the shell\n"

/-- What is printed for a line, and the catalog to go on with; no catalog if the shell is left. -/
def step (sorter : Sorter) (c : Catalog) (line : String) : Option (String × Option Catalog) :=
  match Command.ofLine? line with
  | none => some ("", some c)
  | some .leave => some ("Goodbye!\n", none)
  | some .help => some (helpText, some c)
  | some .tables => some (String.join (c.tableNames.map (· ++ "\n")), some c)
  | some (.statement sql) =>
    (carryOut sorter c sql).map fun (answer, c) => (report answer, some c)

/-- What a line editor gives, asked again and again: what it prints each time, the prompt among it,
and what it reads. -/
inductive Readings where
  /-- A line, and what it gives after that. -/
  | line (printed text : String) (next : Readings)
  /-- There are no more lines. -/
  | ended (printed : String)
  /-- Reading failed. -/
  | failed (printed message : String)
deriving DecidableEq, Repr

/-- What is printed for the lines that are read, from the first prompt on. -/
def transcript (sorter : Sorter) (c : Catalog) : Readings → Option String
  | .ended printed => some printed
  | .failed printed message => some (printed ++ "Error: " ++ message ++ "\n")
  | .line printed text next => do
    match ← step sorter c text with
    | (shown, none) => return printed ++ shown
    | (shown, some c) => return printed ++ shown ++ (← transcript sorter c next)

end Shell

end RelStore
