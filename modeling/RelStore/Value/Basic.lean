import RelStore.Binary64.Shortest
import RelStore.Integer64

/-!
# Values

A `Value` is what a cell of a row or a literal of a statement holds.  Stored cells are `null` or of
the type of their column; doubles come only from literals and from aggregates.

Equality of values is structural: it is what grouping, distinct rows and the uniqueness of keys go
by.  Comparisons in conditions go by `Value.compare?` of `RelStore.Value.Order`.
-/

namespace RelStore

/-- What a cell holds. -/
inductive Value where
  | null
  | boolean (b : Bool)
  /-- An integer of 64 bits. -/
  | integer (i : Int64)
  | float (x : Binary64)
  | text (s : String)
deriving DecidableEq, Repr, Inhabited

/-- A row: one value per column. -/
abbrev Row := List Value

namespace Value

/-- Whether there is no value. -/
def isNull : Value → Bool
  | null => true
  | _ => false

/-- The text a value is shown as. -/
def toText : Value → String
  | null => "NULL"
  | boolean b => if b then "true" else "false"
  | integer i => Text.integerText i.toInt
  | float x => x.toText
  | text s => s

@[simp] theorem isNull_eq_true_iff {v : Value} : v.isNull = true ↔ v = null := by
  cases v <;> simp [isNull]

@[simp] theorem isNull_eq_false_iff {v : Value} : v.isNull = false ↔ v ≠ null := by
  cases v <;> simp [isNull]

end Value

end RelStore
