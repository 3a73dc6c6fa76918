import RelStore.Grammar.Statement
import RelStore.Plan.OfStatement
import RelStore.Plan.RunWith

/-!
# Sessions

A session carries statements out one after the other on its catalog.  Each is read, planned
against the catalog as it is, and run to its end before the next; one that fails leaves the session
going.
-/

namespace RelStore

namespace Session

/-- The plan of the statement that a text is. -/
def plan (c : Catalog) (sql : String) : Except Error Plan := do
  Plan.ofStatement c (← Statement.parse sql)

/-- Carries out the statement that a text is: what it answers, and the catalog afterwards. -/
def execute (c : Catalog) (sql : String) : Except Error Outcome × Catalog :=
  match plan c sql with
  | .ok plan => plan.run c
  | .error e => (.error e, c)

/-- Carries out the statement that a text is, rows sorted with the sort; none if that gives up. -/
def executeWith (sorter : Sorter) (c : Catalog) (sql : String) :
    Option (Except Error Outcome × Catalog) :=
  match plan c sql with
  | .ok plan => plan.runWith sorter c
  | .error e => some (.error e, c)

/-- Carries out the statements in order: what each answers, and the catalog after all. -/
def executeAll (c : Catalog) : List String → List (Except Error Outcome) × Catalog
  | [] => ([], c)
  | sql :: rest =>
    let (answer, c) := execute c sql
    let (answers, c) := executeAll c rest
    (answer :: answers, c)

/-- Statements carried out in two runs, the second on the catalog of the first, are carried out as
in one. -/
theorem executeAll_append (c : Catalog) (first second : List String) :
    executeAll c (first ++ second) =
      ((executeAll c first).1 ++ (executeAll (executeAll c first).2 second).1,
        (executeAll (executeAll c first).2 second).2) := by
  induction first generalizing c with
  | nil => rfl
  | cons sql rest ih => simp [executeAll, ih]

/-- Every statement is answered. -/
theorem length_executeAll (c : Catalog) (statements : List String) :
    (executeAll c statements).1.length = statements.length := by
  induction statements generalizing c with
  | nil => rfl
  | cons sql rest ih => simp [executeAll, ih]

end Session

end RelStore
