import RelStore.Relation.Basic

/-!
# Distinct rows

Of the rows that agree on the given columns only the first is kept.  Values agree if they are the
same value, so two nulls do.
-/

namespace RelStore

/-- The values of a row at the positions. -/
def cellsAt (positions : List Nat) (row : Row) : List Value :=
  positions.map (cellAt row)

/-- The first row of each combination of values in the columns, in all columns if none are
given. -/
def Relation.distinct (r : Relation) (columns : Option (List String)) : Except Error Relation := do
  let positions ← match columns with
    | some names => names.mapM (position r.columns)
    | none => pure (List.range r.columns.length)
  return { r with rows := firstBy (cellsAt positions) r.rows }

end RelStore
