import RelStore.Relation.Basic

/-!
# Plans

A plan is the tree of stages that a statement is carried out by.  Declarations and changes are
leaves; a query is a scan under joins, a filter, a grouping and the stages that order and cut the
result.  Stages that read literals carry the declared types of the columns they can see.
-/

namespace RelStore

/-- A tree of stages. -/
inductive Plan where
  | createTable (schema : Schema)
  | insert (table : String) (columns : List String) (values : List Value)
  /-- Assigns columns in the rows that pass the test. -/
  | update (table : String) (assignments : NameMap Value) (test : Option EqualityTest)
  /-- Removes the rows that pass the test. -/
  | delete (table : String) (test : EqualityTest)
  | scan (table : String)
  /-- The rows of the source joined with those of a table. -/
  | join (source : Plan) (table : String) (kind : JoinKind) (left right qualifier : String)
  /-- The rows of the source of which the conditions hold. -/
  | filter (source : Plan) (conditions : ConditionGroup) (types : ColumnTypes)
  /-- One row per group of rows of the source. -/
  | group (source : Plan) (groupBy : List String) (items : List SelectItem)
      (having : Option ConditionGroup) (types : ColumnTypes)
  /-- The first row of each combination of values in the columns, in all if none are given. -/
  | distinct (source : Plan) (columns : Option (List String))
  | sort (source : Plan) (key : SortKey)
  /-- The rows of the source after the first ones. -/
  | skip (source : Plan) (count : UInt64)
  /-- The first rows of the source. -/
  | take (source : Plan) (count : UInt64)
  | project (source : Plan) (items : List SelectItem)
deriving DecidableEq

end RelStore
