import RelStore.Proofs.Relation.KeyedGroup
import RelStore.Proofs.Session.Reachable

/-!
# Grouped queries

A query on one table that is grouped by the columns it selects, with aggregates behind them, is
planned as a grouping of the rows that its conditions let pass.  These rows have the types that the
table declares, so what a grouping on them answers is what filtering them by each key and
aggregating the rest answers, key by key (`Relation.forall₂_group_keys`).
-/

namespace RelStore

namespace Plan

/-! ## The rows of a table -/

/-- Rows that are filtered or not are some of the rows of the source. -/
theorem subset_of_filterStage {c : Catalog} {filter : Option ConditionGroup}
    {stage filtered : Plan} {types : ColumnTypes}
    (hfilter : filterStage stage filter types = .ok filtered) {r : Relation}
    (hr : (filtered.run c).1 = .ok (.rows r)) :
    ∃ source, (stage.run c).1 = .ok (.rows source) ∧ r.columns = source.columns ∧
      r.rows ⊆ source.rows := by
  unfold filterStage at hfilter
  split at hfilter
  next =>
    cases hfilter
    exact ⟨r, hr, rfl, List.Subset.refl _⟩
  next =>
    split at hfilter
    next =>
      cases hfilter
      obtain ⟨source, hsource, hpass⟩ := andThen_eq_ok_iff.mp hr
      obtain ⟨bounds, -, hpass⟩ := bind_eq_ok_iff.mp hpass
      cases hpass
      exact ⟨source, hsource, rfl, List.filter_subset_self _⟩
    next => contradiction

/-- Rows of a single table, filtered or not, are some of the rows of the table. -/
theorem exists_table_of_filterStage {c : Catalog} (hc : c.Valid) {source : TableReference}
    {filter : Option ConditionGroup} {stage filtered : Plan} {types : ColumnTypes}
    (hstage : sourceStages c source [] = .ok (stage, types))
    (hfilter : filterStage stage filter types = .ok filtered) {r : Relation}
    (hr : (filtered.run c).1 = .ok (.rows r)) :
    ∃ t, c.find source.name = .ok t ∧
      types = .ofList (t.schema.columns.map fun column => (column.name, column.type)) ∧
      r.columns = t.schema.columnNames ∧ r.rows ⊆ t.rows := by
  obtain ⟨t, ht, hstage⟩ := bind_eq_ok_iff.mp hstage
  cases hstage
  have hscan : ((scan t.schema.name).run c).1 = .ok (.rows (.ofTable t)) :=
    map_eq_ok_iff.mpr ⟨t, hc.find_schema_name ht, rfl⟩
  obtain ⟨scanned, hscanned, hcolumns, hrows⟩ := subset_of_filterStage hfilter hr
  cases hscan.symm.trans hscanned
  exact ⟨t, ht, rfl, hcolumns, hrows⟩

/-- Rows of a single table have the types that the planner knows of them. -/
theorem typed_filterStage {c : Catalog} (hc : c.Valid) {source : TableReference}
    {filter : Option ConditionGroup} {stage filtered : Plan} {types : ColumnTypes}
    (hstage : sourceStages c source [] = .ok (stage, types))
    (hfilter : filterStage stage filter types = .ok filtered) {r : Relation}
    (hr : (filtered.run c).1 = .ok (.rows r)) : r.Typed types := by
  obtain ⟨t, ht, rfl, hcolumns, hrows⟩ := exists_table_of_filterStage hc hstage hfilter hr
  obtain ⟨columns, rows⟩ := r
  subst hcolumns
  exact (Relation.typed_ofTable (hc.of_find ht)).of_subset hrows

/-! ## The query -/

/-- The query for the columns, grouped by them, and the aggregates of each group. -/
def groupedQuery (source : TableReference) (filter : Option ConditionGroup)
    (keys : List (String × String)) (calls : List (Aggregate × String)) : Query :=
  { distinct := false, items := keyItems keys ++ callItems calls, source, joins := [], filter
    groupBy := some (keys.map (·.1)), having := none, orderBy := none, limit := none
    offset := none }

theorem resultStages_groupedQuery {source : TableReference} {filter : Option ConditionGroup}
    {keys : List (String × String)} {calls : List (Aggregate × String)} (hne : keys ≠ [])
    (filtered : Plan) (types : ColumnTypes) :
    resultStages (groupedQuery source filter keys calls) filtered types =
      .ok (.group filtered (keys.map (·.1)) (keyItems keys ++ callItems calls) none types) := by
  cases keys with
  | nil => contradiction
  | cons key keys => rfl

/-- **Grouping agrees with filtering.**  On the catalog that a run of statements ends with, a query
for columns grouped by and aggregates, where it succeeds, answers the different keys of the rows
that its conditions let pass, in the order in which they first occur, each followed by the one row
of aggregates that the rows yield which a further filter on the key lets pass. -/
theorem run_groupedQuery (statements : List String) {source : TableReference}
    {filter : Option ConditionGroup} {keys : List (String × String)}
    {calls : List (Aggregate × String)} (hne : keys ≠ []) {p : Plan} {o : Outcome}
    (hplan : ofQuery (Session.executeAll ∅ statements).2 (groupedQuery source filter keys calls) =
      .ok p)
    (hrun : (p.run (Session.executeAll ∅ statements).2).1 = .ok o) :
    let c := (Session.executeAll ∅ statements).2
    ∃ (stage filtered : Plan) (types : ColumnTypes) (projected result : Relation),
      sourceStages c source [] = .ok (stage, types) ∧
      filterStage stage filter types = .ok filtered ∧
      ((project filtered (keyItems keys)).run c).1 = .ok (.rows projected) ∧
      o = .rows result ∧ result.columns = keys.map (·.2) ++ calls.map (·.2) ∧
      List.Forall₂ (fun key row => ∃ aggregated,
          ((group (.filter filtered (keyConditions keys key) types) [] (callItems calls) none
            types).run c).1 = .ok (.rows ⟨calls.map (·.2), [aggregated]⟩) ∧
          row = key ++ aggregated)
        projected.rows.eraseDups result.rows := by
  intro c
  obtain ⟨stage, types, filtered, hstage, hfilter, -, hresult⟩ := ofQuery_eq_ok hplan
  rw [resultStages_groupedQuery hne] at hresult
  cases hresult
  obtain ⟨result, rfl⟩ := andThen_eq_ok hrun
  obtain ⟨r, hr, hgroup⟩ := andThen_eq_ok_iff.mp hrun
  have htyped := typed_filterStage (Catalog.valid_executeAll statements) hstage hfilter hr
  obtain ⟨hcolumns, projected, hproject, hrows⟩ := Relation.forall₂_group_keys htyped hne hgroup
  refine ⟨stage, filtered, types, projected, result, hstage, hfilter,
    andThen_eq_ok_iff.mpr ⟨r, hr, hproject⟩, rfl, hcolumns, hrows.imp ?_⟩
  rintro key row ⟨selected, aggregated, hselected, haggregated, hrow⟩
  refine ⟨aggregated, andThen_eq_ok_iff.mpr ⟨selected, ?_, haggregated⟩, hrow⟩
  exact andThen_eq_ok_iff.mpr ⟨r, hr, hselected⟩

/-- A count of texts by a column with nulls in it: the key that is null has one. -/
theorem run_groupedQuery_nullKey :
    let statements := ["CREATE TABLE t (a INT, b TEXT)", "INSERT INTO t (a, b) VALUES (1, 'x')",
      "INSERT INTO t (a, b) VALUES (null, 'y')", "INSERT INTO t (a, b) VALUES (1, 'z')",
      "INSERT INTO t (a, b) VALUES (null, null)"]
    let c := (Session.executeAll ∅ statements).2
    let types : ColumnTypes := .ofList [("a", .integer), ("b", .text)]
    let p : Plan :=
      .group (.scan "t") ["a"] [.column "a" "a", .aggregate ⟨.count, some "b"⟩ "n"] none types
    (p.run c).1 = .ok (.rows ⟨["a", "n"], [[.integer 1, .integer 2], [.null, .integer 1]]⟩) ∧
      ((group (.filter (.scan "t") ⟨.and, [⟨.column "a", .equal, .null⟩]⟩ types) []
        [.aggregate ⟨.count, some "b"⟩ "n"] none types).run c).1 =
        .ok (.rows ⟨["n"], [[.integer 1]]⟩) := by
  intro statements c types p
  have hc : c = ⟨.ofList [("t", ⟨⟨"t", [⟨"a", .integer⟩, ⟨"b", .text⟩], none⟩,
      [[.integer 1, .text "x"], [.null, .text "y"], [.integer 1, .text "z"],
        [.null, .null]]⟩)]⟩ := by decide +kernel
  have hplan : ofQuery c (groupedQuery ⟨"t", none⟩ none [("a", "a")]
      [(⟨.count, some "b"⟩, "n")]) = .ok p := by rw [hc]; rfl
  have hrun : (p.run c).1 =
      .ok (.rows ⟨["a", "n"], [[.integer 1, .integer 2], [.null, .integer 1]]⟩) := by rw [hc]; rfl
  have hscan : sourceStages c ⟨"t", none⟩ [] = .ok (.scan "t", types) := by rw [hc]; rfl
  have hkeys : ((project (.scan "t") [.column "a" "a"]).run c).1 =
      .ok (.rows ⟨["a"], [[.integer 1], [.null], [.integer 1], [.null]]⟩) := by rw [hc]; rfl
  obtain ⟨stage, filtered, types', projected, result, hstage, hfilter, hproject, hresult, -,
    hrows⟩ := run_groupedQuery statements (by decide) hplan hrun
  cases hscan.symm.trans hstage
  cases hfilter
  cases hkeys.symm.trans hproject
  cases hresult
  cases hrows with
  | cons _ hrest =>
      cases hrest with
      | cons hnull _ =>
          obtain ⟨aggregated, haggregated, hrow⟩ := hnull
          cases hrow
          exact ⟨hrun, haggregated⟩

end Plan

end RelStore
