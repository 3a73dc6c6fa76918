import RelStore.Proofs.Plan.Answer
import RelStore.Proofs.Plan.KeyedGroup
import RelStore.Proofs.Relation.RollUp

/-!
# Grouped queries and queries for all rows

Three queries on one table are compared, with the conditions on rows in common:

* `rowsQuery`: the rows themselves;
* `groupsQuery`: the rows in groups, laid out by any select list;
* `wholeQuery`: one aggregate over all of them.

They select the same rows.  So an aggregate in the second has its values in groups of these rows,
and the third answers what the values go together to (`Query.aggregates_rollUp`).
-/

namespace RelStore

namespace Query

/-- The query for the rows of a table that conditions let pass. -/
def rowsQuery (source : TableReference) (filter : Option ConditionGroup) : Query :=
  { distinct := false, items := [.star], source, joins := [], filter, groupBy := none
    having := none, orderBy := none, limit := none, offset := none }

/-- The query for these rows in groups. -/
def groupsQuery (source : TableReference) (filter : Option ConditionGroup)
    (groupBy : List String) (items : List SelectItem) : Query :=
  { rowsQuery source filter with items, groupBy := some groupBy }

/-- The query for an aggregate over these rows. -/
def wholeQuery (source : TableReference) (filter : Option ConditionGroup) (call : Aggregate)
    (out : String) : Query :=
  { rowsQuery source filter with items := [.aggregate call out] }

variable {c : Catalog} {q : Query} {types : ColumnTypes} {selected r : Relation}
  {source : TableReference} {filter : Option ConditionGroup}

/-- A query for rows answers the rows that it selects. -/
theorem answer_rowsQuery_eq_ok_iff {joins : List Join} :
    ({ rowsQuery source filter with joins } : Query).answer c = .ok r ↔
      ∃ types, ({ rowsQuery source filter with joins } : Query).Selects c types r := by
  have hrows : ¬ ({ rowsQuery source filter with joins } : Query).AggregatesAll :=
    fun h => Bool.false_ne_true h.2
  rw [answer_eq_ok_iff hrows]
  constructor
  · rintro ⟨types, selected, hselects, hpresent⟩
    obtain rfl : selected = r := Except.ok.inj hpresent
    exact ⟨types, hselects⟩
  · rintro ⟨types, hselects⟩
    exact ⟨types, r, hselects, rfl⟩

theorem answer_rowsQuery (h : (rowsQuery source filter).Selects c types selected) :
    (rowsQuery source filter).answer c = .ok selected :=
  answer_rowsQuery_eq_ok_iff.mpr ⟨types, h⟩

theorem answer_wholeQuery {call : Aggregate} {out : String}
    (h : (wholeQuery source filter call out).Selects c types selected)
    (hgroup : selected.group [] [.aggregate call out] none types = .ok r) :
    (wholeQuery source filter call out).answer c = .ok r := by
  rw [answer_eq_bind_group ⟨rfl, rfl⟩ rfl, select_eq_ok_iff.mpr h]
  exact hgroup

/-- A grouped query with an aggregate in its select list answers the groups. -/
theorem group_of_answer_groupsQuery {groupBy : List String} {items : List SelectItem}
    (h : (groupsQuery source filter groupBy items).answer c = .ok r) :
    ∃ types selected, (groupsQuery source filter groupBy items).Selects c types selected ∧
      (∀ call out, .aggregate call out ∈ laidOut groupBy items →
        selected.group groupBy items none types = .ok r) := by
  have hgroups : ¬ (groupsQuery source filter groupBy items).AggregatesAll :=
    fun h => Option.some_ne_none _ h.1
  obtain ⟨types, selected, hselects, hpresent⟩ := (answer_eq_ok_iff hgroups).mp h
  refine ⟨types, selected, hselects, fun call out hmem => ?_⟩
  obtain ⟨item, hitem, hmem⟩ := List.mem_flatMap.mp hmem
  have hne : item ≠ .star := by
    rintro rfl
    obtain ⟨name, -, hname⟩ := List.mem_map.mp hmem
    contradiction
  obtain ⟨base, arranged, hbase, harrange, hproject⟩ := present_eq_ok_iff.mp hpresent
  have hpresentation : (groupsQuery source filter groupBy items).presentation types =
      .grouped groupBy items none types := presentation_eq_grouped rfl hitem hne types
  rw [hpresentation] at hbase harrange hproject
  cases harrange
  cases hproject
  exact hbase

/-- **Aggregates of groups go together to those of all rows.**  On the catalog that a run of
statements ends with, let a query group the rows of a table that its conditions let pass, and let
`parts j` be the values in column `j` of what it answers.  For an aggregate that this column shows:

* counts add up to the count over all rows, and those of rows to the number of rows;
* the least and the greatest over all rows are the first in their direction of the parts that are
  not null, or null if all are;
* sums of a column of integers add up to the sum over all rows, which is an integer, if the absolute
  values of the summands add up to a word. -/
theorem aggregates_rollUp (statements : List String) {groupBy : List String}
    {items : List SelectItem} (hne : groupBy ≠ [])
    (h : (groupsQuery source filter groupBy items).answer (Session.executeAll ∅ statements).2 =
      .ok r) :
    let c := (Session.executeAll ∅ statements).2
    let parts (j : Nat) : List Value := r.rows.map (cellAt · j)
    let Shows (j : Nat) (call : Aggregate) (out : String) : Prop :=
      (laidOut groupBy items)[j]? = some (.aggregate call out)
    let Whole (call : Aggregate) (out : String) (v : Value) : Prop :=
      (wholeQuery source filter call out).answer c = .ok ⟨[out], [[v]]⟩
    ∃ t selected, c.find source.name = .ok t ∧
      (rowsQuery source filter).answer c = .ok selected ∧
      (∀ j column out, Shows j ⟨.count, column⟩ out → ∃ counts : List Nat,
        parts j = counts.map countValue ∧ Whole ⟨.count, column⟩ out (countValue counts.sum) ∧
        (column = none → counts.sum = selected.rows.length)) ∧
      (∀ j (direction : SortDirection) name out, Shows j ⟨direction.extreme, some name⟩ out →
        ∃ v, Whole ⟨direction.extreme, some name⟩ out v ∧ IsFirst direction (parts j) v) ∧
      ∀ j name out i column, Shows j ⟨.sum, some name⟩ out →
        position t.schema.columnNames name = .ok i → t.schema.columns[i]? = some column →
        column.type = .integer →
        (absoluteSum (integersAt i selected.rows) : Int) ≤ Int64.maxValue.toInt →
        ∃ (totals : List Int64) (total : Int64), parts j = totals.map .integer ∧
          Whole ⟨.sum, some name⟩ out (.integer total) ∧
          total.toInt = (totals.map (·.toInt)).sum := by
  intro c parts Shows Whole
  have hc : c.Valid := Catalog.valid_executeAll statements
  obtain ⟨types, selected, hselects, hgroup⟩ := group_of_answer_groupsQuery h
  obtain ⟨stage, filtered, hstage, hfilter, -, hrun⟩ := id hselects
  obtain ⟨t, ht, -, hcolumns, hrows⟩ :=
    Plan.exists_table_of_filterStage hc hstage hfilter hrun
  have hparts : ∀ {j call out}, Shows j call out → selected.Parts call (parts j) := fun hshows =>
    Relation.parts_of_group hne (hgroup _ _ (List.mem_of_getElem? hshows)) hshows
  have hwhole : ∀ {call out v},
      selected.group [] [.aggregate call out] none types = .ok ⟨[out], [[v]]⟩ →
      Whole call out v := answer_wholeQuery (hselects.of_having_none rfl rfl rfl rfl)
  -- the rows are rows of the table, and their values those of its columns
  have hholds : ∀ i (column : Column), t.schema.columns[i]? = some column →
      ∀ row ∈ selected.rows, column.type.Holds (cellAt row i) := fun i column hcolumn row hrow =>
    ((hc.of_find ht).admits row (hrows hrow)).holds_cellAt hcolumn
  refine ⟨t, selected, ht, answer_rowsQuery (hselects.of_having_none rfl rfl rfl rfl), ?_, ?_, ?_⟩
  · intro j column out hshows
    obtain ⟨counts, hcounts, hgroup, hsum⟩ := (hparts hshows).exists_counts types out
    exact ⟨counts, hcounts, hwhole hgroup, hsum⟩
  · intro j direction name out hshows
    have hcolumn : ∀ i, position selected.columns name = .ok i → ∃ type : ColumnType,
        ∀ row ∈ selected.rows, type.Holds (cellAt row i) := by
      intro i hi
      have hlt : i < t.schema.columns.length := by
        simpa [hcolumns, Schema.columnNames] using lt_length_of_position_eq_ok hi
      exact ⟨_, hholds i _ (List.getElem?_eq_getElem hlt)⟩
    obtain ⟨v, hgroup, hfirst⟩ := (hparts hshows).exists_extreme hcolumn types out
    exact ⟨v, hwhole hgroup, hfirst⟩
  · intro j name out i column hshows hi hcolumn htype hbound
    rw [← hcolumns] at hi
    obtain ⟨totals, total, htotals, hgroup, hsum⟩ :=
      (hparts hshows).exists_totals hi (htype ▸ hholds i column hcolumn) hbound types out
    exact ⟨totals, total, htotals, hwhole hgroup, hsum⟩

/-- Three groups, one of them with nulls only and one under the key that is null. -/
theorem aggregates_rollUp_nullGroup :
    let statements := ["CREATE TABLE t (k INT, a INT)", "INSERT INTO t (k, a) VALUES (1, 5)",
      "INSERT INTO t (k, a) VALUES (2, null)", "INSERT INTO t (k, a) VALUES (1, 3)",
      "INSERT INTO t (k, a) VALUES (null, 7)", "INSERT INTO t (k, a) VALUES (1, 9)",
      "INSERT INTO t (k, a) VALUES (null, 1)"]
    let c := (Session.executeAll ∅ statements).2
    let filter : Option ConditionGroup :=
      some ⟨.or, [⟨.column "a", .lessOrEqual, .integer 7⟩, ⟨.column "a", .equal, .null⟩]⟩
    let items : List SelectItem := [.aggregate ⟨.count, none⟩ "n", .star,
      .aggregate ⟨.min, some "a"⟩ "least", .aggregate ⟨.sum, some "a"⟩ "total"]
    let r : Relation := ⟨["n", "k", "least", "total"],
      [[.integer 2, .integer 1, .integer 3, .integer 8],
        [.integer 1, .integer 2, .null, .integer 0],
        [.integer 2, .null, .integer 1, .integer 8]]⟩
    (groupsQuery ⟨"t", none⟩ filter ["k"] items).answer c = .ok r ∧
      (∃ counts : List Nat, [.integer 2, .integer 1, .integer 2] = counts.map countValue ∧
        counts.sum = 5) ∧
      (∃ v, (wholeQuery ⟨"t", none⟩ filter ⟨.min, some "a"⟩ "least").answer c =
          .ok ⟨["least"], [[v]]⟩ ∧
        IsFirst .ascending [.integer 3, .null, .integer 1] v) ∧
      ∃ total : Int64, (wholeQuery ⟨"t", none⟩ filter ⟨.sum, some "a"⟩ "total").answer c =
          .ok ⟨["total"], [[.integer total]]⟩ ∧
        total.toInt = 8 + 0 + 8 := by
  intro statements c filter items r
  let t : Table := ⟨⟨"t", [⟨"k", .integer⟩, ⟨"a", .integer⟩], none⟩,
    [[.integer 1, .integer 5], [.integer 2, .null], [.integer 1, .integer 3],
      [.null, .integer 7], [.integer 1, .integer 9], [.null, .integer 1]]⟩
  have hc : c = ⟨.ofList [("t", t)]⟩ := by decide +kernel
  have hgroups : (groupsQuery ⟨"t", none⟩ filter ["k"] items).answer c = .ok r := by
    rw [hc]
    decide +kernel
  have hrows : (rowsQuery ⟨"t", none⟩ filter).answer c = .ok ⟨["k", "a"],
      [[.integer 1, .integer 5], [.integer 2, .null], [.integer 1, .integer 3],
        [.null, .integer 7], [.null, .integer 1]]⟩ := by
    rw [hc]
    decide +kernel
  have hfind : c.find "t" = .ok t := by
    rw [hc]
    rfl
  obtain ⟨t', selected, ht, hselected, hcounts, hextremes, hsums⟩ :=
    aggregates_rollUp statements (by decide) hgroups
  cases ht.symm.trans hfind
  cases hselected.symm.trans hrows
  obtain ⟨counts, hcounts, -, hsum⟩ := hcounts 0 none "n" rfl
  obtain ⟨v, hv, hfirst⟩ := hextremes 2 .ascending "a" "least" rfl
  obtain ⟨totals, total, htotals, htotal, hsum'⟩ :=
    hsums 3 "a" "total" 1 ⟨"a", .integer⟩ rfl (by decide +kernel) rfl rfl (by decide +kernel)
  refine ⟨hgroups, ⟨counts, hcounts, hsum rfl⟩, ⟨v, hv, hfirst⟩, total, htotal, ?_⟩
  have heq : ([8, 0, 8] : List Int64).map Value.integer = totals.map Value.integer := htotals
  rw [hsum', ← List.map_injective_iff.mpr (fun _ _ => Value.integer.inj) heq]
  decide

end Query

end RelStore
