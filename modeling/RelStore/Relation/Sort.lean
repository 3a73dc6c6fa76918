import RelStore.Relation.Basic

/-!
# Sorting rows

Rows are sorted by one column, stably: each row is inserted behind all rows that do not have to
come after it.  A null is least, and values without an order keep their places.  The descending
order reverses what has to come before what, so rows of equal keys keep their order in it as well.
-/

namespace RelStore

universe u

variable {α : Type u}

/-- Inserts an element into a list given last element first, passing those it is before. -/
def insertFromEnd (before : α → α → Bool) (a : α) : List α → List α
  | [] => [a]
  | b :: l => if before a b then b :: insertFromEnd before a l else a :: b :: l

/-- The list sorted, elements that are not before one another keeping their order. -/
def stableSort (before : α → α → Bool) (l : List α) : List α :=
  (l.foldl (fun sorted a => insertFromEnd before a sorted) []).reverse

theorem insertFromEnd_perm (before : α → α → Bool) (a : α) (l : List α) :
    (insertFromEnd before a l).Perm (a :: l) := by
  induction l with
  | nil => exact .refl _
  | cons b l ih =>
    simp only [insertFromEnd]
    split
    · exact (ih.cons b).trans (.swap a b l)
    · exact .refl _

/-- Sorting keeps every element. -/
theorem stableSort_perm (before : α → α → Bool) (l : List α) : (stableSort before l).Perm l := by
  have hfold : ∀ (l sorted : List α),
      (l.foldl (fun sorted a => insertFromEnd before a sorted) sorted).Perm (sorted ++ l) := by
    intro l
    induction l with
    | nil => simp
    | cons a l ih =>
      intro sorted
      refine (ih _).trans (((insertFromEnd_perm before a sorted).append_right l).trans ?_)
      exact List.perm_middle.symm
  exact (List.reverse_perm _).trans (by simpa using hfold l [])

/-- Whether a value has to come before another in the direction. -/
def SortDirection.before (direction : SortDirection) (v w : Value) : Bool :=
  match direction with
  | .ascending => v.compare? w == some .lt
  | .descending => v.compare? w == some .gt

/-- The relation sorted by a column. -/
def Relation.sort (r : Relation) (key : SortKey) : Except Error Relation := do
  let i ← position r.columns key.column
  let before (row other : Row) := key.direction.before (cellAt row i) (cellAt other i)
  return { r with rows := stableSort before r.rows }

end RelStore
