import RelStore.NameMap
import RelStore.Schema
import RelStore.Value.Order

/-!
# Tables

A `Table` is a schema and the rows inserted so far, in the order of their insertion.  Its three
changes, `insert`, `update` and `delete`, answer the changed table or an error and no table: what
can fail is decided before a row is touched.

| change | what can fail, in order |
| --- | --- |
| `insert` | uneven lists, an unknown column, per column a missing value or a cast, the key |
| `update` | per assignment an unknown column or a cast, the filter, the key |
| `delete` | the filter |

Two notions of equal keys meet here.  An insertion compares keys as conditions do, an update
structurally; on cells of one stored type the two are the same.
-/

namespace RelStore

/-- The value at a position of a row; a null beyond its end. -/
def cellAt (row : Row) (i : Nat) : Value :=
  row[i]?.getD .null

/-- The demand that a column equals a literal. -/
structure EqualityTest where
  column : String
  literal : Value
deriving DecidableEq, Repr

/-- A schema and the rows that are stored under it. -/
structure Table where
  schema : Schema
  /-- The rows, oldest first. -/
  rows : List Row
deriving DecidableEq, Repr

/-- Whether a row has the value at the position, in the sense of conditions. -/
def matchesAt (test : Nat × Value) (row : Row) : Bool :=
  (cellAt row test.1).satisfies .equal test.2

/-- The row with each of the values put at its position. -/
def assignCells (assignments : List (Nat × Value)) (row : Row) : Row :=
  assignments.foldl (fun row assignment => row.set assignment.1 assignment.2) row

/-- The cast values of the columns, each taken from the first pair of its name.  A pair serves one
column only. -/
def rowOfPairs : List Column → List (String × Value) → Except Error Row
  | [], _ => .ok []
  | column :: columns, pairs =>
    match pairs.lookup column.name with
    | none => .error (.missingColumn column.name)
    | some v => do
      let cell ← column.type.cast v
      let cells ← rowOfPairs columns (pairs.filter fun pair => pair.1 ≠ column.name)
      return cell :: cells

namespace Table

/-- The table without rows. -/
def empty (schema : Schema) : Table :=
  ⟨schema, []⟩

/-- The position a test reads and the literal cast to compare with it. -/
def bindTest (t : Table) (test : EqualityTest) : Except Error (Nat × Value) := do
  let (i, type) ← t.schema.locate test.column
  return (i, ← type.castComparand test.literal)

/-- Refuses a row whose key is in the table already.  A null is no key. -/
def checkNewKey (t : Table) (row : Row) : Except Error Unit :=
  match t.schema.keyColumn? with
  | none => .ok ()
  | some (name, i) =>
    let key := cellAt row i
    if !key.isNull && t.rows.any (matchesAt (i, key)) then .error (.duplicateKey name key)
    else .ok ()

/-- Refuses rows two of which have one key, naming the first key that is a repetition. -/
def checkKeys (name : String) (i : Nat) (rows : List Row) : Except Error Unit :=
  match firstRepeat? ((rows.map (cellAt · i)).filter (!·.isNull)) with
  | some key => .error (.duplicateKey name key)
  | none => .ok ()

/-- Appends the row that has the given values in the given columns.  Of two values for one column
the later counts. -/
def insert (t : Table) (columns : List String) (values : List Value) : Except Error Table :=
  if columns.length ≠ values.length then
    .error (.internal (.unevenRow columns.length values.length))
  else do
    columns.forM fun column => discard (t.schema.position column)
    let row ← rowOfPairs t.schema.columns (columns.zip values).reverse
    t.checkNewKey row
    return { t with rows := t.rows ++ [row] }

/-- The positions assigned and the cast values put there. -/
def bindAssignments (t : Table) (assignments : NameMap Value) :
    Except Error (List (Nat × Value)) :=
  assignments.entries.mapM fun (column, literal) => do
    let (i, type) ← t.schema.locate column
    return (i, ← type.cast literal)

/-- Assigns the columns in every row that passes the test, in all rows if there is none, and
answers how many rows those are. -/
def update (t : Table) (assignments : NameMap Value) (test : Option EqualityTest) :
    Except Error (Nat × Table) := do
  let bound ← t.bindAssignments assignments
  let test ← test.mapM t.bindTest
  let selected (row : Row) : Bool := test.all (matchesAt · row)
  let rows := t.rows.map fun row => if selected row then assignCells bound row else row
  match t.schema.keyColumn? with
  | some (name, i) => if bound.any (·.1 == i) then checkKeys name i rows
  | none => pure ()
  return (t.rows.countP selected, { t with rows })

/-- Removes every row that passes the test, and answers how many rows those are. -/
def delete (t : Table) (test : EqualityTest) : Except Error (Nat × Table) := do
  let bound ← t.bindTest test
  return (t.rows.countP (matchesAt bound), { t with rows := t.rows.filter (!matchesAt bound ·) })

end Table

end RelStore
