import Mathlib.Data.List.Forall2
import RelStore.Proofs.Token.Word
import RelStore.Statement.Basic

/-!
# Well-formed statements

The statements that have a spelling.  Names are names, columns are names or two of them with a point
between, lists that are spelled with separators are not empty, and what the grammar derives from
other parts agrees with these: the orientation of a join, the connective of a single condition,
the output name of a call.

Which literals are allowed is a parameter, because the literals that can be read are more than those
that have a spelling of their own: any double is the value of many numbers, or of none.
-/

namespace RelStore

/-- The texts that columns may be called by, qualified or not. -/
inductive IsColumn : String → Prop
  | plain {name : String} (hname : IsName name) : IsColumn name
  /-- A name behind a qualifier. -/
  | qualified {qualifier name : String} (hqualifier : IsName qualifier) (hname : IsName name) :
      IsColumn (qualify qualifier name)

/-- A literal without a quote in it. -/
def Value.Unquoted : Value → Prop
  | text s => '\'' ∉ s.toList
  | _ => True

/-- A literal that has one spelling up to letter case: any but a double or a quoted quote. -/
def Value.Spellable : Value → Prop
  | float _ => False
  | v => v.Unquoted

/-- Only counting runs over the rows themselves. -/
structure Aggregate.WellFormed (call : Aggregate) : Prop where
  isColumn : ∀ column ∈ call.column, IsColumn column
  /-- A star is the argument of counting. -/
  eq_count : call.column = none → call.function = .count

/-- An item names columns, and gives its own column a name or leaves it the name it has. -/
def SelectItem.WellFormed : SelectItem → Prop
  | star => True
  | column name outputName => IsColumn name ∧ (outputName = name ∨ IsName outputName)
  | aggregate call outputName =>
    call.WellFormed ∧ (IsName outputName ∨
      ∃ functionName, AggregateFunction.ofName? functionName = some call.function ∧
        outputName = call.defaultOutputName functionName)

/-- The left side of a condition names a column or is a call. -/
def Operand.WellFormed : Operand → Prop
  | column name => IsColumn name
  | aggregate call => call.WellFormed

section Literals

variable (literal : Value → Prop)

/-- A condition compares with an allowed literal. -/
structure Condition.WellFormed (c : Condition) : Prop where
  operand : c.operand.WellFormed
  literal : literal c.literal

/-- A group has conditions, and one alone counts as joined by AND. -/
structure ConditionGroup.WellFormed (group : ConditionGroup) : Prop where
  ne_nil : group.conditions ≠ []
  condition : ∀ c ∈ group.conditions, c.WellFormed literal
  /-- Nothing is joined to a single condition. -/
  eq_and : group.conditions.length = 1 → group.connective = .and

/-- The test of an update or a deletion is on a column of its table. -/
structure EqualityTest.WellFormed (test : EqualityTest) : Prop where
  isName : IsName test.column
  literal : literal test.literal

/-- A join to a first table of the qualifier, its condition the right way round. -/
structure Join.WellFormed (qualifier : String) (j : Join) : Prop where
  table : IsName j.table
  rightQualifier : IsName j.rightQualifier
  left : IsColumn j.left
  right : IsColumn j.right
  leftQualifier_eq : j.leftQualifier = qualifier
  /-- If only one side is a column of the joined table, it is the right one. -/
  oriented : ¬ (qualifierOf? j.left = some j.rightQualifier ∧
    qualifierOf? j.right ≠ some j.rightQualifier)

/-- Every clause of the query is well-formed. -/
structure Query.WellFormed (q : Query) : Prop where
  items_ne_nil : q.items ≠ []
  item : ∀ item ∈ q.items, item.WellFormed
  source : IsName q.source.name
  otherName : ∀ name ∈ q.source.otherName, IsName name
  join : ∀ j ∈ q.joins, j.WellFormed q.source.qualifier
  filter : ∀ group ∈ q.filter, group.WellFormed literal
  groupBy_ne_nil : q.groupBy ≠ some []
  groupBy : ∀ columns ∈ q.groupBy, ∀ column ∈ columns, IsColumn column
  having : ∀ group ∈ q.having, group.WellFormed literal
  orderBy : ∀ key ∈ q.orderBy, IsColumn key.column

/-- The statement has a spelling, if the literals in it have one. -/
def Statement.WellFormed : Statement → Prop
  | createTable name columns key =>
    IsName name ∧ (∀ column ∈ columns, IsName column.name) ∧ (∀ column ∈ key, IsName column) ∧
      (columns = [] → key ≠ none)
  | insert table columns values =>
    IsName table ∧ columns ≠ [] ∧ (∀ column ∈ columns, IsName column) ∧ columns.Nodup ∧
      columns.length = values.length ∧ ∀ v ∈ values, literal v ∧ ∀ b, v ≠ .boolean b
  | update table assignments test =>
    IsName table ∧ assignments.entries ≠ [] ∧
      (∀ entry ∈ assignments.entries, IsName entry.1 ∧ literal entry.2) ∧
      ∀ condition ∈ test, EqualityTest.WellFormed literal condition
  | delete table test =>
    IsName table ∧ ∀ condition ∈ test, EqualityTest.WellFormed literal condition
  | select q => q.WellFormed literal

end Literals

/-! ## Joins the other way round -/

/-- The right side alone is a column of the joined table. -/
def Join.Reversible (j : Join) : Prop :=
  qualifierOf? j.right = some j.rightQualifier ∧ qualifierOf? j.left ≠ some j.rightQualifier

instance (j : Join) : Decidable j.Reversible :=
  inferInstanceAs (Decidable (_ ∧ _))

/-- The join with the sides of its condition exchanged. -/
def Join.reversed (j : Join) : Join :=
  { j with left := j.right, right := j.left }

/-- The joins of the list, some of those that are reversible with their sides exchanged. -/
def SomeReversed (joins : List Join) : List Join → Prop :=
  List.Forall₂ (fun j j' => j' = j ∨ (j.Reversible ∧ j' = j.reversed)) joins

/-- The statement, or the query with some of its reversible joins the other way round. -/
inductive Statement.SidesExchanged : Statement → Statement → Prop
  | refl (s : Statement) : SidesExchanged s s
  | select {q : Query} {joins : List Join} (hjoins : SomeReversed q.joins joins) :
      SidesExchanged (.select q) (.select { q with joins })

end RelStore
