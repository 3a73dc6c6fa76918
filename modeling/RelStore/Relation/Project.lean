import RelStore.Relation.Distinct

/-!
# Projecting columns

The columns of a select list, in its order and under the names it gives.  A star stands for all
columns; an aggregate has no place here, because it is not a column of single rows.
-/

namespace RelStore

/-- The positions that an item selects, each with the name of the result's column. -/
def selectedColumns (columns : List String) : SelectItem → Except Error (List (Nat × String))
  | .star => .ok ((List.range columns.length).zip columns)
  | .column name outputName => do return [(← position columns name, outputName)]
  | .aggregate _ outputName => .error (.internal (.aggregateInProjection outputName))

/-- The relation of the selected columns. -/
def Relation.project (r : Relation) (items : List SelectItem) : Except Error Relation := do
  let selected := (← items.mapM (selectedColumns r.columns)).flatten
  return ⟨selected.map (·.2), r.rows.map (cellsAt (selected.map (·.1)))⟩

end RelStore
