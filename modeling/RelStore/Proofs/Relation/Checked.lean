import RelStore.Plan.Run
import RelStore.Proofs.Relation.Grouping

/-!
# Runs that check their reading of rows

`cellAt` answers a null beyond the end of a row, so a run never says whether it read there.  Here
every stage is written once more with `readCell`, which stops the run instead: a `Fault` is either
an error of the run or a position beyond a row.  Nothing else reads a row by position, so a checked
run without such a fault has read within the rows throughout.

A stage may be asked to read more than it needs, never less: the conditions of a group are all
judged, and a single row is read for sorting as well.
-/

namespace RelStore

/-- Why a run that checks its reading of rows stops. -/
inductive Fault where
  /-- The run fails without the checks as well. -/
  | failed (e : Error)
  /-- The position is not one of the row. -/
  | beyondRow (row : Row) (i : Nat)
deriving DecidableEq, Repr

/-- What a run that checks its reading of rows answers. -/
abbrev Checked := Except Fault

/-- The checked answer of what reads no row. -/
def unchecked {α : Type} (x : Except Error α) : Checked α :=
  x.mapError .failed

/-- The value at a position, which has to be one of the row. -/
def readCell (row : Row) (i : Nat) : Checked Value :=
  if h : i < row.length then .ok row[i] else .error (.beyondRow row i)

/-- The values at the positions, which have to be some of the row. -/
def readCells (positions : List Nat) (row : Row) : Checked (List Value) :=
  positions.mapM (readCell row)

/-! ## Stages on single rows -/

/-- Whether the condition holds of a row, its column checked. -/
def BoundCondition.checkedHolds (c : BoundCondition) (row : Row) : Checked Bool := do
  return (← readCell row c.position).satisfies c.comparison c.comparand

namespace Relation

/-- The rows of which the conditions hold, every condition judged. -/
def checkedFilter (r : Relation) (group : ConditionGroup) (types : ColumnTypes) :
    Checked Relation := do
  let bound ← unchecked (group.conditions.mapM (bindCondition r.columns types))
  let rows ← r.rows.filterM fun row => do
    return group.connective.combine (← bound.mapM (·.checkedHolds row))
  return { r with rows }

/-- The first row of each combination of values, all of these read beforehand. -/
def checkedDistinct (r : Relation) (columns : Option (List String)) : Checked Relation := do
  let positions ← match columns with
    | some names => unchecked (names.mapM (position r.columns))
    | none => pure (List.range r.columns.length)
  let keys ← r.rows.mapM (readCells positions)
  return { r with rows := (firstBy (·.1) (keys.zip r.rows)).map (·.2) }

/-- The relation sorted by values that were read beforehand. -/
def checkedSort (r : Relation) (key : SortKey) : Checked Relation := do
  let i ← unchecked (position r.columns key.column)
  let cells ← r.rows.mapM (readCell · i)
  let before (a b : Value × Row) := key.direction.before a.1 b.1
  return { r with rows := (stableSort before (cells.zip r.rows)).map (·.2) }

/-- The relation of the selected columns. -/
def checkedProject (r : Relation) (items : List SelectItem) : Checked Relation := do
  let selected := (← unchecked (items.mapM (selectedColumns r.columns))).flatten
  return ⟨selected.map (·.2), ← r.rows.mapM (readCells (selected.map (·.1)))⟩

/-! ## Joining -/

/-- Whether the keys of two rows match. -/
def checkedKeysMatch (i j : Nat) (row other : Row) : Checked Bool := do
  return keysMatch (← readCell row i) (← readCell other j)

/-- The rows that a row of the relation yields. -/
def checkedJoinRow (others : List Row) (width : Nat) (keep : Bool) (i j : Nat) (row : Row) :
    Checked (List Row) := do
  match ← others.filterM (checkedKeysMatch i j row) with
  | [] => return if keep then [row ++ nulls width] else []
  | found => return found.map (row ++ ·)

/-- The rows of the table that no row of the relation is a partner of. -/
def checkedUnpartnered (rows others : List Row) (i j : Nat) : Checked (List Row) :=
  others.filterM fun other => do
    return !(← rows.mapM (checkedKeysMatch i j · other)).any id

/-- The rows of the relation joined with those of the table. -/
def checkedJoin (r : Relation) (t : Table) (kind : JoinKind) (left right qualifier : String) :
    Checked Relation := do
  let columns := t.schema.columnNames
  let i ← unchecked (position r.columns left)
  let j ← unchecked (position columns (stripQualifier qualifier right))
  let joined ← r.rows.mapM (checkedJoinRow t.rows columns.length kind.keepsLeft i j)
  let rest ← if kind.keepsRight then checkedUnpartnered r.rows t.rows i j else pure []
  return ⟨r.columns ++ columns.map (qualify qualifier),
    joined.flatten ++ rest.map (nulls r.columns.length ++ ·)⟩

end Relation

/-! ## Grouping -/

/-- The values at a position that are not null. -/
def checkedNonNullAt (i : Nat) (rows : List Row) : Checked (List Value) := do
  return (← rows.mapM (readCell · i)).filter (!·.isNull)

/-- What a function makes of the rows of a group. -/
def AggregateFunction.checkedFold (function : AggregateFunction) (position : Option Nat)
    (rows : List Row) : Checked Value := do
  match function, position with
  | .count, none => return .integer (.ofNat rows.length)
  | .count, some i => return .integer (.ofNat (← checkedNonNullAt i rows).length)
  | _, none => .error (.failed (.internal .aggregateWithoutColumn))
  | .sum, some i => unchecked ((numbers (← checkedNonNullAt i rows)).map sumOf)
  | .avg, some i => unchecked ((numbers (← checkedNonNullAt i rows)).map meanOf)
  | .min, some i => return extremeOf .lt (← checkedNonNullAt i rows)
  | .max, some i => return extremeOf .gt (← checkedNonNullAt i rows)

/-- A value of a group whose aggregates have been computed.  A group without rows has nulls in its
columns. -/
def CellSource.checkedRead (computed : List (Aggregate × Value)) (group : List Row) :
    CellSource → Checked Value
  | aggregate call => .ok ((computed.lookup call).getD .null)
  | position i =>
    match group with
    | [] => .ok .null
    | first :: _ => readCell first i

/-- The groups of the rows, their keys read beforehand. -/
def checkedGroupsOf (positions : List Nat) (rows : List Row) : Checked (List (List Row)) := do
  if positions.isEmpty then return [rows]
  else
    let keyed := (← rows.mapM (readCells positions)).zip rows
    return (firstBy (·.1) keyed).map fun first =>
      (keyed.filter fun row => row.1 = first.1).map (·.2)

/-- The row that a group becomes, every condition judged. -/
def checkedGroupRow (fields : List OutputField) (calls : List (Aggregate × Option Nat))
    (having : Option (Connective × List GroupCondition)) (group : List Row) :
    Checked (Option Row) := do
  let computed ← calls.mapM fun (call, i) => do return (call, ← call.function.checkedFold i group)
  let holds (c : GroupCondition) : Checked Bool := do
    return (← c.source.checkedRead computed group).satisfies c.comparison c.comparand
  let kept ← match having with
    | none => pure true
    | some (connective, conditions) => do pure (connective.combine (← conditions.mapM holds))
  if kept then return some (← fields.mapM (·.source.checkedRead computed group)) else return none

/-- The relation with one row per group of which the conditions hold. -/
def Relation.checkedGroup (r : Relation) (groupBy : List String) (items : List SelectItem)
    (having : Option ConditionGroup) (types : ColumnTypes) : Checked Relation := do
  let g ← unchecked (bindGrouping r.columns groupBy items having types)
  let groups ← checkedGroupsOf g.positions r.rows
  let rows ← groups.mapM (checkedGroupRow g.fields g.calls g.having)
  return ⟨g.fields.map (·.name), rows.filterMap id⟩

/-! ## Plans -/

namespace Plan

/-- The answer of a stage to what its source answered. -/
def checkedAndThen (result : Checked Outcome × Catalog)
    (stage : Catalog → Relation → Checked Relation) : Checked Outcome × Catalog :=
  (do
    let relation ← unchecked (← result.1).relation
    return .rows (← stage result.2 relation), result.2)

/-- What a plan without a source answers. -/
def checkedLeaf (result : Except Error Outcome × Catalog) : Checked Outcome × Catalog :=
  (unchecked result.1, result.2)

/-- Carries out a plan, every stage checking the positions at which it reads the rows of its
source. -/
def checkedRun (c : Catalog) : Plan → Checked Outcome × Catalog
  | createTable schema => checkedLeaf ((createTable schema).run c)
  | insert table columns values => checkedLeaf ((insert table columns values).run c)
  | update table assignments test => checkedLeaf ((update table assignments test).run c)
  | delete table test => checkedLeaf ((delete table test).run c)
  | scan table => checkedLeaf ((scan table).run c)
  | join source table kind left right qualifier =>
    checkedAndThen (source.checkedRun c) fun c r => do
      r.checkedJoin (← unchecked (c.find table)) kind left right qualifier
  | filter source conditions types =>
    checkedAndThen (source.checkedRun c) fun _ r => r.checkedFilter conditions types
  | group source groupBy items having types =>
    checkedAndThen (source.checkedRun c) fun _ r => r.checkedGroup groupBy items having types
  | distinct source columns =>
    checkedAndThen (source.checkedRun c) fun _ r => r.checkedDistinct columns
  | sort source key => checkedAndThen (source.checkedRun c) fun _ r => r.checkedSort key
  | skip source count => checkedAndThen (source.checkedRun c) fun _ r => .ok (r.skip count.toNat)
  | take source count => checkedAndThen (source.checkedRun c) fun _ r => .ok (r.take count.toNat)
  | project source items => checkedAndThen (source.checkedRun c) fun _ r => r.checkedProject items

end Plan

end RelStore
