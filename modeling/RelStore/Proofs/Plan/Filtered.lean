import RelStore.Proofs.Plan.RollUp
import RelStore.Proofs.Relation.Typed

/-!
# Queries for the rows that conditions let pass

A query for all columns of the rows that conditions let pass answers what the conditions leave of
the joined tables, and fails as these do or as the binding of the conditions does
(`Query.answer_filtered`).  A single condition on a column of one table is bound to the place of the
column and to its literal, cast for comparison with the type that the column is declared with
(`Table.filter_comparison`).
-/

namespace RelStore

/-! ## One condition -/

/-- A single condition lets those rows pass of which it holds. -/
theorem Relation.filter_single (r : Relation) (connective : Connective) (condition : Condition)
    (types : ColumnTypes) :
    r.filter ⟨connective, [condition]⟩ types =
      (bindCondition r.columns types condition).map fun bound =>
        { r with rows := r.rows.filter bound.holds } := by
  unfold filter
  dsimp only
  rw [mapM_singleton]
  cases bindCondition r.columns types condition with
  | error e => rfl
  | ok bound =>
      have hcombine : ∀ row, connective.combine ([bound].map (·.holds row)) = bound.holds row := by
        intro row
        cases connective with
        | and => exact Bool.and_true _
        | or => exact Bool.or_false _
      exact congrArg (fun rows => Except.ok (Relation.mk r.columns rows))
        (List.filter_congr fun row _ => hcombine row)

namespace Table

variable {t : Table} {column : String} {i : Nat} {definition : Column}

/-- A condition on a column of a table is bound to its place, and to its literal cast to its
type. -/
theorem bindCondition_column (ht : t.Valid) (hi : position t.schema.columnNames column = .ok i)
    (hdefinition : t.schema.columns[i]? = some definition) (comparison : Comparison)
    (literal : Value) :
    Relation.bindCondition t.schema.columnNames
        (.ofList (t.schema.columns.map fun column => (column.name, column.type)))
        ⟨.column column, comparison, literal⟩ =
      (definition.type.castComparand literal).map fun comparand => ⟨i, comparison, comparand⟩ := by
  have hdeclared : (t.schema.columns.map fun column => (column.name, column.type))[i]? =
      some (definition.name, definition.type) := by
    rw [List.getElem?_map, hdefinition, Option.map_some]
  have htype := typeAt?_ofList ht.agree hdeclared
  rw [List.map_map] at htype
  have htype' :
      typeAt? (.ofList (t.schema.columns.map fun column => (column.name, column.type)))
        t.schema.columnNames i = some definition.type := htype
  unfold Relation.bindCondition
  dsimp only
  rw [hi, ok_bind, htype']
  dsimp only [castComparandTo]
  cases definition.type.castComparand literal <;> rfl

/-- A condition on a column of a table lets those rows pass whose value is in the comparison to the
literal, cast to the type of the column. -/
theorem filter_comparison (ht : t.Valid) (hi : position t.schema.columnNames column = .ok i)
    (hdefinition : t.schema.columns[i]? = some definition) (connective : Connective)
    (comparison : Comparison) (literal : Value) :
    (Relation.ofTable t).filter ⟨connective, [⟨.column column, comparison, literal⟩]⟩
        (.ofList (t.schema.columns.map fun column => (column.name, column.type))) =
      (definition.type.castComparand literal).map fun comparand =>
        ⟨t.schema.columnNames,
          t.rows.filter fun row => (cellAt row i).satisfies comparison comparand⟩ := by
  have hbind := bindCondition_column ht hi hdefinition comparison literal
  rw [Relation.filter_single]
  unfold Relation.ofTable
  dsimp only
  rw [hbind]
  cases definition.type.castComparand literal <;> rfl

end Table

/-! ## The query -/

namespace Query

variable {c : Catalog}

/-- A query for rows answers what the filter leaves of its tables. -/
theorem answer_joined {source : TableReference} {joins : List Join}
    {filter : Option ConditionGroup} :
    ({ rowsQuery source filter with joins } : Query).answer c =
      Plan.sourceStages c source joins >>= fun stage =>
        Plan.filterStage stage.1 filter stage.2 >>= fun p => p.rows c := by
  have hrows : ¬ ({ rowsQuery source filter with joins } : Query).AggregatesAll :=
    fun h => Bool.false_ne_true h.2
  rw [answer_eq_bind hrows]
  unfold select
  rw [bind_assoc]
  refine bind_congr fun stage => ?_
  show (Plan.filterStage stage.1 filter stage.2 >>= _) >>= _ = _
  rw [bind_assoc]
  refine bind_congr fun p => ?_
  -- there is no `having`, and the rows are presented as they are
  show (p.rows c >>= _) >>= _ = p.rows c
  cases p.rows c <;> rfl

/-- **A query for rows filters those of its tables.** -/
theorem answer_filtered {source : TableReference} {joins : List Join} {group : ConditionGroup}
    (hgroup : group.onColumnsOnly = true) :
    ({ rowsQuery source (some group) with joins } : Query).answer c =
      Plan.sourceStages c source joins >>= fun stage =>
        stage.1.rows c >>= fun r => r.filter group stage.2 := by
  rw [answer_joined]
  refine bind_congr fun stage => ?_
  have hfilter : Plan.filterStage stage.1 (some group) stage.2 =
      .ok (.filter stage.1 group stage.2) := if_pos hgroup
  rw [hfilter, ok_bind]
  exact Plan.relation_andThen _ _

/-- A query for rows of a single table filters those of the table. -/
theorem answer_filtered_table (hc : c.Valid) {source : TableReference} {t : Table}
    (ht : c.find source.name = .ok t) {group : ConditionGroup}
    (hgroup : group.onColumnsOnly = true) :
    (rowsQuery source (some group)).answer c = (Relation.ofTable t).filter group
      (.ofList (t.schema.columns.map fun column => (column.name, column.type))) := by
  have hscan : (Plan.scan t.schema.name).rows c = .ok (.ofTable t) :=
    Plan.rows_eq_ok_iff.mpr (map_eq_ok_iff.mpr ⟨t, hc.find_schema_name ht, rfl⟩)
  have hstages : Plan.sourceStages c source [] = .ok (.scan t.schema.name,
      .ofList (t.schema.columns.map fun column => (column.name, column.type))) := by
    unfold Plan.sourceStages
    rw [ht]
    rfl
  rw [show rowsQuery source (some group) = { rowsQuery source (some group) with joins := [] } from
    rfl, answer_filtered hgroup, hstages, ok_bind]
  dsimp only
  rw [hscan, ok_bind]

end Query

end RelStore
