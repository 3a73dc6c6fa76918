import RelStore.Relation.Sort

/-!
# Sorting with a given sort

Rows may be sorted by any sort that goes by a comparison.  Such a sort may rely on the comparison
being a total order.  If it is none, the sort may leave the rows in whatever order or give up, which
brings the program down.  Sorting by insertion never gives up.
-/

namespace RelStore

/-- A sort of rows by a comparison: the rows sorted, none if it gives up. -/
abbrev Sorter := (Row → Row → Ordering) → List Row → Option (List Row)

/-- Sorting by insertion. -/
def Sorter.insertion : Sorter := fun compare rows =>
  some (stableSort (fun row other => compare row other == .lt) rows)

/-- How two values compare in the direction, values without an order as equal ones do. -/
def SortDirection.compare (direction : SortDirection) (v w : Value) : Ordering :=
  let order := (v.compare? w).getD .eq
  match direction with
  | .ascending => order
  | .descending => order.swap

/-- How two rows compare by the column at a position. -/
def SortKey.compareAt (key : SortKey) (i : Nat) (row other : Row) : Ordering :=
  key.direction.compare (cellAt row i) (cellAt other i)

/-- The relation sorted by a column with the sort, none if it gives up. -/
def Relation.sortWith (sorter : Sorter) (r : Relation) (key : SortKey) :
    Option (Except Error Relation) :=
  match position r.columns key.column with
  | .ok i => (sorter (key.compareAt i) r.rows).map fun rows => .ok { r with rows }
  | .error e => some (.error e)

end RelStore
