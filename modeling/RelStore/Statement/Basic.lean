import RelStore.Aggregate.Basic
import RelStore.ColumnName
import RelStore.NameMap
import RelStore.Table

/-!
# Statements

The five kinds of statement, as data.  Names are kept as they were written, a qualified column
as one text with its point; nothing is looked up yet.
-/

namespace RelStore

/-- A column as it is declared. -/
structure ColumnDefinition where
  name : String
  type : ColumnType
  /-- Whether the column is declared to be the key. -/
  isKey : Bool
deriving DecidableEq, Repr

/-- What a select list names. -/
inductive SelectItem where
  /-- All columns. -/
  | star
  /-- A column, under a name of the result. -/
  | column (name outputName : String)
  /-- An aggregate, under a name of the result. -/
  | aggregate (call : Aggregate) (outputName : String)
deriving DecidableEq, Repr

/-- The name of an aggregate in the result if none is given: the call with its function as it was
written, a star always under counting's own name. -/
def Aggregate.defaultOutputName (call : Aggregate) (functionName : String) : String :=
  match call.column with
  | some column => functionName ++ "(" ++ column ++ ")"
  | none => "COUNT(*)"

/-- The left side of a condition. -/
inductive Operand where
  | column (name : String)
  | aggregate (call : Aggregate)
deriving DecidableEq, Repr

/-- A comparison of something with a literal. -/
structure Condition where
  operand : Operand
  comparison : Comparison
  literal : Value
deriving DecidableEq, Repr

/-- How the conditions of a group are joined. -/
inductive Connective where
  | and
  | or
deriving DecidableEq, Repr

/-- Whether a group holds whose conditions have the given truth values. -/
def Connective.combine : Connective → List Bool → Bool
  | and, truths => truths.all id
  | or, truths => truths.any id

/-- Conditions under one connective. -/
structure ConditionGroup where
  connective : Connective
  conditions : List Condition
deriving DecidableEq, Repr

/-- Which rows without a partner a join keeps. -/
inductive JoinKind where
  | inner
  | left
  | right
  | full
deriving DecidableEq, Repr

/-- Whether rows on the left without a partner are kept. -/
def JoinKind.keepsLeft : JoinKind → Bool
  | left | full => true
  | inner | right => false

/-- Whether rows on the right without a partner are kept. -/
def JoinKind.keepsRight : JoinKind → Bool
  | right | full => true
  | inner | left => false

/-- The table that a query starts from. -/
structure TableReference where
  name : String
  /-- Another name for it in the query. -/
  otherName : Option String
deriving DecidableEq, Repr

/-- What the table's columns are qualified by. -/
def TableReference.qualifier (r : TableReference) : String :=
  r.otherName.getD r.name

/-- A table joined to what stands before it. -/
structure Join where
  table : String
  kind : JoinKind
  /-- The column compared on the left. -/
  left : String
  /-- The column of the table compared with it. -/
  right : String
  /-- What the columns of the query's first table are qualified by. -/
  leftQualifier : String
  /-- What the columns of the joined table are qualified by. -/
  rightQualifier : String
deriving DecidableEq, Repr

/-- A direction of sorting. -/
inductive SortDirection where
  | ascending
  | descending
deriving DecidableEq, Repr

/-- A column to sort by. -/
structure SortKey where
  column : String
  direction : SortDirection
deriving DecidableEq, Repr

/-- A query. -/
structure Query where
  /-- Whether equal rows are shown once. -/
  distinct : Bool
  items : List SelectItem
  source : TableReference
  joins : List Join
  /-- The conditions on rows. -/
  filter : Option ConditionGroup
  groupBy : Option (List String)
  /-- The conditions on groups. -/
  having : Option ConditionGroup
  orderBy : Option SortKey
  limit : Option UInt64
  offset : Option UInt64
deriving DecidableEq, Repr

/-- A statement. -/
inductive Statement where
  /-- Declares a table, its key also by a constraint of its own. -/
  | createTable (name : String) (columns : List ColumnDefinition) (key : Option String)
  /-- Adds a row, values and columns going by position. -/
  | insert (table : String) (columns : List String) (values : List Value)
  /-- Assigns columns in the rows that pass the test. -/
  | update (table : String) (assignments : NameMap Value) (test : Option EqualityTest)
  | delete (table : String) (test : Option EqualityTest)
  | select (query : Query)
deriving DecidableEq

end RelStore
