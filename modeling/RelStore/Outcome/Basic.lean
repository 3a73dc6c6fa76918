import RelStore.Relation.Basic

/-!
# Outcomes

What carrying out a statement answers: the name of a new table, the number of rows changed, or
rows.  An update answers the whole table as it stands afterwards besides the number.
-/

namespace RelStore

/-- What a statement answers. -/
inductive Outcome where
  | created (table : String)
  | inserted (count : Nat)
  | rows (relation : Relation)
  /-- Rows were changed, in a table that now is as given. -/
  | updated (count : Nat) (table : Relation)
  | deleted (count : Nat)
deriving DecidableEq, Repr

/-- The rows of an outcome that has selected some; an error for any other. -/
def Outcome.relation : Outcome → Except Error Relation
  | rows r => .ok r
  | _ => .error (.internal .unexpectedOutcome)

end RelStore
