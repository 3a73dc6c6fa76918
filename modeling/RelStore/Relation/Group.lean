import RelStore.Aggregate.Fold
import RelStore.Relation.Distinct

/-!
# Grouping rows

Rows that agree on the columns grouped by form a group; the groups stand in the order of their
first rows.  If no columns are given, all rows are one group, even if there are none.  A group
becomes one row of the result, laid out by the select list: a column grouped by has one value
throughout the group, an aggregate folds the group, and a star stands for the columns grouped by.

A condition on groups reads the result's column of its name if there is one, else a column grouped
by; an aggregate in it is computed whether it is selected or not.

Faults are reported in this order: the columns grouped by, the select list, the conditions, the
columns of the aggregates, and then the aggregates themselves, group by group.
-/

namespace RelStore

/-- Where a value of a grouped row comes from. -/
inductive CellSource where
  /-- The fold of the group. -/
  | aggregate (call : Aggregate)
  /-- The position in the group's first row. -/
  | position (i : Nat)
deriving DecidableEq, Repr

/-- A column of a grouped result. -/
structure OutputField where
  name : String
  source : CellSource
  /-- The declared type of its values, if they have one. -/
  type : Option ColumnType
deriving DecidableEq, Repr

/-- A comparison of a value of a group with a value. -/
structure GroupCondition where
  /-- Where the value compared comes from. -/
  source : CellSource
  comparison : Comparison
  /-- What is compared with. -/
  comparand : Value
deriving DecidableEq, Repr

/-- What a grouping works on: the columns of its source, what is known of their types, and the
columns grouped by with their positions. -/
structure GroupingContext where
  columns : List String
  /-- The declared types of columns. -/
  types : ColumnTypes
  groupBy : List String
  positions : List Nat

namespace GroupingContext

/-- The type of an aggregate's value: the least and the greatest are of their column's type. -/
def aggregateType? (g : GroupingContext) (call : Aggregate) : Option ColumnType :=
  match call.function with
  | .min | .max => call.column.bind (columnType? g.types g.columns)
  | _ => none

/-- The result's columns that an item of the select list asks for. -/
def fields (g : GroupingContext) : SelectItem → Except Error (List OutputField)
  | .star =>
    .ok ((g.groupBy.zip g.positions).map fun (name, i) =>
      ⟨name, .position i, columnType? g.types g.columns name⟩)
  | .column name outputName => do
    let i ← position g.columns name
    if i ∈ g.positions then
      return [⟨outputName, .position i, columnType? g.types g.columns name⟩]
    else .error (.malformed (.columnNotGrouped name))
  | .aggregate call outputName => .ok [⟨outputName, .aggregate call, g.aggregateType? call⟩]

/-- What a name in a condition on groups reads, and the type of that. -/
def namedSource (g : GroupingContext) (fields : List OutputField) (name : String) :
    Except Error (CellSource × Option ColumnType) :=
  match (position? (fields.map (·.name)) name).bind (fields[·]?) with
  | some field => .ok (field.source, field.type)
  | none =>
    match position? g.columns name with
    | some i =>
      if i ∈ g.positions then .ok (.position i, columnType? g.types g.columns name)
      else .error (.columnNotFound name)
    | none => .error (.columnNotFound name)

/-- The condition as one on the values of a group. -/
def bindCondition (g : GroupingContext) (fields : List OutputField) (c : Condition) :
    Except Error GroupCondition := do
  let (source, type) ← match c.operand with
    | .aggregate call => pure (.aggregate call, g.aggregateType? call)
    | .column name => g.namedSource fields name
  return ⟨source, c.comparison, ← castComparandTo type c.literal⟩

end GroupingContext

/-- The aggregates that values come from, each once. -/
def neededAggregates (sources : List CellSource) : List Aggregate :=
  firstBy id (sources.filterMap fun | .aggregate call => some call | .position _ => none)

/-- The rows by what they hold at the positions, in the order of first rows. -/
def groupRows (positions : List Nat) (rows : List Row) : List (List Row) :=
  (firstBy (cellsAt positions) rows).map fun first =>
    rows.filter fun row => cellsAt positions row = cellsAt positions first

/-- The groups of the rows: all rows in one if there are no positions. -/
def groupsOf (positions : List Nat) (rows : List Row) : List (List Row) :=
  if positions.isEmpty then [rows] else groupRows positions rows

/-- A value of a group whose aggregates have been computed. -/
def CellSource.read (computed : List (Aggregate × Value)) (group : List Row) : CellSource → Value
  | aggregate call => (computed.lookup call).getD .null
  | position i => (group.head?.map (cellAt · i)).getD .null

/-- The row that a group becomes, none if the conditions do not hold of it. -/
def groupRow (fields : List OutputField) (calls : List (Aggregate × Option Nat))
    (having : Option (Connective × List GroupCondition)) (group : List Row) :
    Except Error (Option Row) := do
  let computed ← calls.mapM fun (call, i) => do return (call, ← call.function.fold i group)
  let holds (c : GroupCondition) : Bool :=
    (c.source.read computed group).satisfies c.comparison c.comparand
  let kept := having.all fun (connective, conditions) => connective.combine (conditions.map holds)
  return if kept then some (fields.map (·.source.read computed group)) else none

/-- The relation with one row per group of which the conditions hold. -/
def Relation.group (r : Relation) (groupBy : List String) (items : List SelectItem)
    (having : Option ConditionGroup) (types : ColumnTypes) : Except Error Relation := do
  let positions ← groupBy.mapM (position r.columns)
  let context : GroupingContext := { columns := r.columns, types, groupBy, positions }
  let fields := (← items.mapM context.fields).flatten
  let having ← having.mapM fun group => do
    return (group.connective, ← group.conditions.mapM (context.bindCondition fields))
  let conditions := (having.map (·.2)).getD []
  let needed := neededAggregates (fields.map (·.source) ++ conditions.map (·.source))
  let calls ← needed.mapM fun call => do
    return (call, ← call.column.mapM (position r.columns))
  let rows ← (groupsOf positions r.rows).mapM (groupRow fields calls having)
  return ⟨fields.map (·.name), rows.filterMap id⟩

end RelStore
