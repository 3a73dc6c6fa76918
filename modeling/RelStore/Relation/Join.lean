import RelStore.Relation.Basic

/-!
# Joining a table

Every row of a relation is put together with each row of a table whose key equals its own.  A null
equals no key here.  Rows without a partner are dropped or kept as the kind of join says, padded
with nulls: those of the relation in their place, those of the table at the end.

| kind | rows of the relation kept | rows of the table kept |
| --- | --- | --- |
| inner | | |
| left | yes | |
| right | | yes |
| full | yes | yes |

The rows of the table are gone through once for each row of the relation.  Which of them had a
partner is known only after the last row, so there is a flag for each.
-/

namespace RelStore

/-- Whether two keys are equal and neither is a null. -/
def keysMatch (v w : Value) : Bool :=
  !v.isNull && !w.isNull && v.satisfies .equal w

/-- A row of nulls. -/
def nulls (n : Nat) : Row :=
  List.replicate n .null

/-- Where a join stands. -/
structure JoinLoop where
  /-- The joined rows so far. -/
  rows : List Row
  /-- For each row of the table, whether it had a partner so far. -/
  flags : List Bool
deriving DecidableEq, Repr

namespace JoinLoop

/-- The step for a row and the row of the table at a position.  The truth value says whether the
row had a partner so far. -/
def pair (i j : Nat) (row : Row) (state : JoinLoop × Bool) (other : Row × Nat) : JoinLoop × Bool :=
  if keysMatch (cellAt row i) (cellAt other.1 j) then
    (⟨state.1.rows ++ [row ++ other.1], state.1.flags.set other.2 true⟩, true)
  else state

/-- The step for a row, which is kept without a partner if `keep` says so. -/
def next (others : List Row) (width : Nat) (keep : Bool) (i j : Nat) (loop : JoinLoop)
    (row : Row) : JoinLoop :=
  let (loop, found) := others.zipIdx.foldl (pair i j row) (loop, false)
  if !found && keep then { loop with rows := loop.rows ++ [row ++ nulls width] } else loop

end JoinLoop

namespace Relation

/-- The rows of the relation joined with those of the table on `left = right`. -/
def join (r : Relation) (t : Table) (kind : JoinKind) (left right qualifier : String) :
    Except Error Relation := do
  let columns := t.schema.columnNames
  let i ← position r.columns left
  let j ← position columns (stripQualifier qualifier right)
  let start : JoinLoop := ⟨[], t.rows.map fun _ => false⟩
  let loop := r.rows.foldl (JoinLoop.next t.rows columns.length kind.keepsLeft i j) start
  let rest := if kind.keepsRight then
      ((t.rows.zip loop.flags).filter (!·.2)).map (nulls r.columns.length ++ ·.1)
    else []
  return ⟨r.columns ++ columns.map (qualify qualifier), loop.rows ++ rest⟩

end Relation

end RelStore
