import RelStore.Plan.Basic

/-!
# From statements to plans

The stages of a query are always in the order scan and joins, filter, grouping, distinct rows,
sorting, skipping, taking, projection.  What depends on the query is which of them there are.

| query | grouping | distinct on | sorted by | projection |
| --- | --- | --- | --- | --- |
| aggregates, nothing grouped | one row | not at all | not at all | no |
| only stars | no | all columns | as written | no |
| grouped | yes | all columns | names of the result | no |
| other | no | selected columns | names of the source | yes |

An aggregate over everything yields one row, so the clauses on many rows do nothing to it.  A
grouped result is sorted by its own columns, others are sorted before they are projected, so in
either case a name from the other side is first carried over.
-/

namespace RelStore

namespace SelectItem

/-- Whether the item is an aggregate. -/
def isAggregate : SelectItem → Bool
  | aggregate _ _ => true
  | _ => false

/-- The item's words in the message that it cannot stand beside an aggregate; none if it can. -/
def ungroupedName? : SelectItem → Option String
  | star => some "*"
  | column name _ => some name
  | aggregate _ _ => none

/-- The name of the source's column that the item selects. -/
def sourceName? : SelectItem → Option String
  | column name _ => some name
  | _ => none

/-- The name that the item gives to its column of the result. -/
def outputName? : SelectItem → Option String
  | star => none
  | column _ outputName => some outputName
  | aggregate _ outputName => some outputName

end SelectItem

/-- The source's column that is selected under the name. -/
def sourceOfOutput? (items : List SelectItem) (name : String) : Option String :=
  items.findSome? fun
    | .column source outputName => if outputName = name then some source else none
    | _ => none

/-- The name under which the source's column is selected, unless the name is one of the result's
already. -/
def outputOfSource? (items : List SelectItem) (name : String) : Option String :=
  if items.any (·.outputName? = some name) then none
  else
    items.findSome? fun
      | .column source outputName => if source = name then some outputName else none
      | _ => none

/-- Whether every condition is on a column. -/
def ConditionGroup.onColumnsOnly (group : ConditionGroup) : Bool :=
  group.conditions.all fun c => match c.operand with
    | .column _ => true
    | .aggregate _ => false

namespace Plan

/-- The key of a table whose constraint and columns declare at most one. -/
def declaredKey (table : String) (columns : List ColumnDefinition) (key : Option String) :
    Except Error (Option String) :=
  match key.toList ++ (columns.filter (·.isKey)).map (·.name) with
  | [] => .ok none
  | [key] => .ok (some key)
  | _ => .error (.invalidSchema (.multiplePrimaryKeys table))

/-- The types with those of a joined table's columns under their qualified names. -/
def addQualifiedTypes (types : ColumnTypes) (qualifier : String) (schema : Schema) : ColumnTypes :=
  schema.columns.foldl
    (fun types column => types.insert (qualify qualifier column.name) column.type) types

/-- The stage that joins a table to a source, and the types of the columns after it. -/
def joinStage (c : Catalog) (stage : Plan × ColumnTypes) (join : Join) :
    Except Error (Plan × ColumnTypes) := do
  let schema := (← c.find join.table).schema
  return (.join stage.1 schema.name join.kind join.left join.right join.rightQualifier,
    addQualifiedTypes stage.2 join.rightQualifier schema)

/-- The stages for the tables of a query, and the types of the columns they yield. -/
def sourceStages (c : Catalog) (source : TableReference) (joins : List Join) :
    Except Error (Plan × ColumnTypes) := do
  let schema := (← c.find source.name).schema
  let types := NameMap.ofList (schema.columns.map fun column => (column.name, column.type))
  joins.foldlM (joinStage c) (.scan schema.name, types)

/-- The source under the filter, if there is one. -/
def filterStage (source : Plan) (filter : Option ConditionGroup) (types : ColumnTypes) :
    Except Error Plan :=
  match filter with
  | none => .ok source
  | some conditions =>
    if conditions.onColumnsOnly then .ok (.filter source conditions types)
    else .error (.malformed .aggregateInWhere)

/-- The source under the stages that make rows distinct, sort them and cut them. -/
def finalStages (source : Plan) (q : Query) (distinctOn : Option (List String))
    (orderBy : Option SortKey) : Plan :=
  let source := if q.distinct then .distinct source distinctOn else source
  let source := orderBy.elim source (.sort source)
  let source := q.offset.elim source (.skip source)
  q.limit.elim source (.take source)

/-- The sort key with its column carried over, where there is anything to carry it to. -/
def renameKey (rename : String → Option String) (key : SortKey) : SortKey :=
  { key with column := (rename key.column).getD key.column }

/-- The plan of a query. -/
def ofQuery (c : Catalog) (q : Query) : Except Error Plan := do
  let (source, types) ← sourceStages c q.source q.joins
  let source ← filterStage source q.filter types
  let aggregates := q.items.any (·.isAggregate)
  if q.having.isSome && !aggregates then throw .havingRequiresAggregate
  match q.groupBy with
  | none =>
    if aggregates then
      match q.items.findSome? (·.ungroupedName?) with
      | some name => throw (.malformed (.ungroupedSelection name))
      | none => return .group source [] q.items q.having types
    else if q.items.all (· == .star) then
      return finalStages source q none q.orderBy
    else
      let distinctOn := q.items.mapM (·.sourceName?)
      let orderBy := q.orderBy.map (renameKey (sourceOfOutput? q.items))
      return .project (finalStages source q distinctOn orderBy) q.items
  | some groupBy =>
    if q.items.all (· == .star) then
      return finalStages source q none q.orderBy
    else
      let orderBy := q.orderBy.map (renameKey (outputOfSource? q.items))
      return finalStages (.group source groupBy q.items q.having types) q none orderBy

/-- The plan of a statement, its tables looked up in the catalog. -/
def ofStatement (c : Catalog) : Statement → Except Error Plan
  | .createTable name columns key => do
    let primaryKey ← declaredKey name columns key
    let columns := columns.map fun column => ⟨column.name, column.type⟩
    return .createTable { name, columns, primaryKey }
  | .insert table columns values => .ok (.insert table columns values)
  | .update table assignments test => .ok (.update table assignments test)
  | .delete _ none => .error .deleteRequiresWhere
  | .delete table (some test) => .ok (.delete table test)
  | .select q => ofQuery c q

end Plan

end RelStore
