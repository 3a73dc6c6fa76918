import RelStore.Relation.Basic

/-!
# Filtering rows

The conditions of a group are bound once, each to the position of its column and to its literal
cast for comparison with that column; every row is then judged by the bound conditions alone.
-/

namespace RelStore

/-- A comparison of the value at a position with a value. -/
structure BoundCondition where
  position : Nat
  comparison : Comparison
  /-- What is compared with. -/
  comparand : Value
deriving DecidableEq, Repr

/-- Whether the condition holds of a row. -/
def BoundCondition.holds (c : BoundCondition) (row : Row) : Bool :=
  (cellAt row c.position).satisfies c.comparison c.comparand

namespace Relation

/-- The condition as one on positions.  Only columns can be judged row by row. -/
def bindCondition (columns : List String) (types : ColumnTypes) (c : Condition) :
    Except Error BoundCondition :=
  match c.operand with
  | .aggregate call => .error (.internal (.aggregateInFilter call))
  | .column name => do
    let i ← RelStore.position columns name
    return ⟨i, c.comparison, ← castComparandTo (typeAt? types columns i) c.literal⟩

/-- The rows of which the conditions hold. -/
def filter (r : Relation) (group : ConditionGroup) (types : ColumnTypes) :
    Except Error Relation := do
  let bound ← group.conditions.mapM (bindCondition r.columns types)
  return { r with
    rows := r.rows.filter fun row => group.connective.combine (bound.map (·.holds row)) }

end Relation

end RelStore
