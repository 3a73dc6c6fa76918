import RelStore.Proofs.Plan.Presented
import RelStore.Proofs.Relation.StableSort

/-!
# Sorted and distinct answers

A query is sorted and made distinct before its columns are projected, by names that the planner
carries over to the source.  What is seen is nevertheless what the clauses say of the result:

* an answer that is sorted is the stable sort of the answer that is not, by the column of the result
  (`answer_orderBy`);
* an answer of distinct rows is the answer of all rows with every repetition erased
  (`answer_distinct`).

Both come from one fact: the queries that differ from a query in these clauses answer rows made in
one way of some rows, and those are kept and sorted as the clauses say (`answer_variants`).  That
distinct rows may be found before they are sorted is `StablySorted.firstBy`.
-/

namespace RelStore

namespace Query

variable {c : Catalog} {q : Query} {types types' : ColumnTypes} {r selected selected' : Relation}

/-! ## Queries that differ in their last clauses -/

/-- A query selects one relation. -/
theorem Selects.unique (h : q.Selects c types selected) (h' : q.Selects c types' selected') :
    types = types' ∧ selected = selected' := by
  obtain ⟨source, filtered, hstages, hfilter, -, hrun⟩ := h
  obtain ⟨source', filtered', hstages', hfilter', -, hrun'⟩ := h'
  cases hstages.symm.trans hstages'
  cases hfilter.symm.trans hfilter'
  cases hrun.symm.trans hrun'
  exact ⟨rfl, rfl⟩

theorem Selects.shaped (hc : c.Valid) (h : q.Selects c types selected) : selected.Shaped := by
  obtain ⟨source, filtered, -, -, -, hrun⟩ := h
  exact (Plan.runsShaped hc filtered).shaped _ hrun

/-- Making distinct, sorting and cutting leave the columns. -/
theorem columns_of_arrange {distinctOn : Option (List String)} {orderBy : Option SortKey}
    {arranged : Relation} (h : q.arrange distinctOn orderBy r = .ok arranged) :
    arranged.columns = r.columns := by
  obtain ⟨kept, hkept, h⟩ := bind_eq_ok_iff.mp h
  obtain ⟨sorted, hsorted, h⟩ := bind_eq_ok_iff.mp h
  cases h
  have hkeptColumns : kept.columns = r.columns := by
    split at hkept
    · exact Relation.columns_of_distinct hkept
    · rw [Except.ok.inj hkept]
  have hsortedColumns : sorted.columns = kept.columns := by
    cases orderBy with
    | none => rw [Except.ok.inj hsorted]
    | some key =>
        obtain ⟨i, -, rfl⟩ := Relation.sort_eq_ok_iff.mp hsorted
        rfl
  rw [← hkeptColumns, ← hsortedColumns]
  cases q.offset <;> cases q.limit <;> rfl

/-- The rows, or the first of those that make one row of the result. -/
def keptRows (distinct : Bool) (f : Row → Row) (base : Relation) : Relation :=
  if distinct then { base with rows := firstBy f base.rows } else base

/-- The rows sorted by the column that is sorted by for the key. -/
def sortedRows (p : Presentation) (orderBy : Option SortKey) (r : Relation) :
    Except Error Relation :=
  (orderBy.map (Plan.renameKey p.rename)).elim (.ok r) r.sort

/-- Rows that are not cut are made distinct and then sorted. -/
theorem arrange_eq_sortedRows {p : Presentation} {base : Relation} {columns : List String}
    {f : Row → Row} (h : p.Makes base columns f) (hlimit : q.limit = none)
    (hoffset : q.offset = none) :
    q.arrange p.distinctOn (q.orderBy.map (Plan.renameKey p.rename)) base =
      sortedRows p q.orderBy (keptRows q.distinct f base) := by
  have hkept : (if q.distinct then base.distinct p.distinctOn else .ok base) =
      .ok (keptRows q.distinct f base) := by
    rw [h.distinct_eq]
    unfold keptRows
    split <;> rfl
  unfold arrange
  rw [hkept, hlimit, hoffset, ok_bind]
  exact bind_pure (sortedRows p q.orderBy (keptRows q.distinct f base))

/-- **Queries that differ in how they keep and sort rows make their answers in one way** of the
rows that they keep and sort. -/
theorem answer_variants (hc : c.Valid) (hq : ¬ q.AggregatesAll) (hlimit : q.limit = none)
    (hoffset : q.offset = none) (h : q.answer c = .ok r) :
    ∃ p base f, p.Makes base r.columns f ∧ ∀ (distinct : Bool) (orderBy : Option SortKey)
      (result : Relation), { q with distinct, orderBy }.answer c = .ok result ↔
        ∃ sorted, sortedRows p orderBy (keptRows distinct f base) = .ok sorted ∧
          ⟨r.columns, sorted.rows.map f⟩ = result := by
  obtain ⟨types, selected, hselects, hpresent⟩ := (answer_eq_ok_iff hq).mp h
  obtain ⟨base, arranged, hbase, harrange, hproject⟩ := present_eq_ok_iff.mp hpresent
  have harranged : arranged = { base with rows := arranged.rows } := by
    rw [← columns_of_arrange harrange]
  rw [harranged] at hproject
  obtain ⟨f, hmakes⟩ := exists_makes (hselects.shaped hc) hbase hproject
  refine ⟨q.presentation types, base, f, hmakes, fun distinct orderBy result => ?_⟩
  -- the clauses that differ do not reach into the rows selected or the way they are presented
  have hvariant : ¬ { q with distinct, orderBy }.AggregatesAll := hq
  have hvariantArrange : arrange { q with distinct, orderBy } (q.presentation types).distinctOn
      (orderBy.map (Plan.renameKey (q.presentation types).rename)) base =
      sortedRows (q.presentation types) orderBy (keptRows distinct f base) :=
    arrange_eq_sortedRows hmakes hlimit hoffset
  have hmade : ∀ sorted : Relation, sorted.columns = base.columns →
      (q.presentation types).project sorted = .ok ⟨r.columns, sorted.rows.map f⟩ := by
    intro sorted hcolumns
    rw [← hmakes.project_eq sorted.rows, ← hcolumns]
  rw [answer_eq_ok_iff hvariant, ← hvariantArrange]
  constructor
  · rintro ⟨types', selected', hselects', hpresent'⟩
    obtain ⟨rfl, rfl⟩ := hselects.unique hselects'
    obtain ⟨base', sorted, hbase', hsorted, hresult⟩ := present_eq_ok_iff.mp hpresent'
    cases hbase.symm.trans hbase'
    have hresultMade := hmade sorted (columns_of_arrange hsorted)
    exact ⟨sorted, hsorted, Except.ok.inj (hresultMade.symm.trans hresult)⟩
  · rintro ⟨sorted, hsorted, rfl⟩
    have hresult := hmade sorted (columns_of_arrange hsorted)
    exact ⟨types, selected, hselects,
      present_eq_ok_iff.mpr ⟨base, sorted, hbase, hsorted, hresult⟩⟩

/-! ## Sorted answers -/

section Sorted

variable {p : Presentation} {base kept sorted : Relation} {columns : List String} {f : Row → Row}
  {orderBy : Option SortKey} {key : SortKey} {i : Nat} {type : ColumnType}

theorem perm_of_sortedRows (h : sortedRows p orderBy kept = .ok sorted) :
    sorted.rows.Perm kept.rows := by
  cases orderBy with
  | none => rw [Except.ok.inj h]
  | some key =>
      obtain ⟨i, -, rfl⟩ := Relation.sort_eq_ok_iff.mp h
      exact stableSort_perm _ _

/-- Whether rows can be sorted depends on their columns only. -/
theorem exists_sortedRows (h : sortedRows p orderBy kept = .ok sorted)
    (hcolumns : base.columns = kept.columns) : ∃ other, sortedRows p orderBy base = .ok other := by
  cases orderBy with
  | none => exact ⟨base, rfl⟩
  | some key =>
      obtain ⟨i, hi, -⟩ := Relation.sort_eq_ok_iff.mp h
      rw [← hcolumns] at hi
      exact ⟨_, Relation.sort_eq_ok_iff.mpr ⟨i, hi, rfl⟩⟩

theorem keptRows_columns (distinct : Bool) : (keptRows distinct f base).columns = base.columns := by
  cases distinct <;> rfl

theorem keptRows_subset (distinct : Bool) : (keptRows distinct f base).rows ⊆ base.rows := by
  cases distinct with
  | false => exact List.Subset.refl base.rows
  | true => exact (firstBy_sublist f base.rows).subset

/-- **Rows are sorted by the column of the result that they make.** -/
theorem stablySorted_sortedRows (hmakes : p.Makes base columns f) (hnodup : columns.Nodup)
    (hi : columns[i]? = some key.column) {distinct : Bool}
    (h : sortedRows p (some key) (keptRows distinct f base) = .ok sorted)
    (hholds : ∀ row ∈ sorted.rows, type.Holds (cellAt (f row) i)) :
    StablySorted key.direction.Precedes (fun row => cellAt (f row) i)
      (keptRows distinct f base).rows sorted.rows := by
  have hperm := perm_of_sortedRows h
  obtain ⟨j, hj, hcells⟩ := hmakes.position_rename key.column i hnodup hi
  obtain ⟨j', hj', rfl⟩ := Relation.sort_eq_ok_iff.mp h
  rw [keptRows_columns] at hj'
  cases hj.symm.trans hj'
  have hcells' : ∀ row ∈ (keptRows distinct f base).rows, cellAt (f row) i = cellAt row j :=
    fun row hrow => hcells row (keptRows_subset distinct hrow)
  have hkept : ∀ row ∈ (keptRows distinct f base).rows, type.Holds (cellAt row j) := by
    intro row hrow
    rw [← hcells' row hrow]
    exact hholds row (hperm.mem_iff.mpr hrow)
  exact (stablySorted_stableSort key.direction hkept).congr hcells'

end Sorted

/-- **An answer that is sorted is the stable sort of the answer that is not.**  On the catalog that
a run of statements ends with, let a query that is not cut and does not aggregate everything be
sorted by one of the columns of its result, which all have different names.  If its answer has nulls
and values of one kind in that column, the query without the clause has the same columns, and its
rows are sorted by the column, rows of one value in it keeping their order. -/
theorem answer_orderBy (statements : List String) {key : SortKey} {i : Nat} {type : ColumnType}
    (hq : ¬ q.AggregatesAll) (hlimit : q.limit = none) (hoffset : q.offset = none)
    (horder : q.orderBy = some key)
    (h : q.answer (Session.executeAll ∅ statements).2 = .ok r) (hnodup : r.columns.Nodup)
    (hi : r.columns[i]? = some key.column) (hholds : ∀ row ∈ r.rows, type.Holds (cellAt row i)) :
    ∃ unsorted, { q with orderBy := none }.answer (Session.executeAll ∅ statements).2 =
        .ok unsorted ∧
      r.columns = unsorted.columns ∧
      StablySorted key.direction.Precedes (cellAt · i) unsorted.rows r.rows := by
  obtain ⟨p, base, f, hmakes, hvariants⟩ :=
    answer_variants (Catalog.valid_executeAll statements) hq hlimit hoffset h
  obtain ⟨sorted, hsorted, hr⟩ := (hvariants q.distinct q.orderBy r).mp h
  rw [horder] at hsorted
  have hrows : r.rows = sorted.rows.map f := by rw [← hr]
  have hholds' : ∀ row ∈ sorted.rows, type.Holds (cellAt (f row) i) := fun row hrow =>
    hholds (f row) (hrows ▸ List.mem_map_of_mem hrow)
  have hstable := stablySorted_sortedRows hmakes hnodup hi hsorted hholds'
  refine ⟨⟨r.columns, (keptRows q.distinct f base).rows.map f⟩, ?_, rfl, ?_⟩
  · exact (hvariants q.distinct none _).mpr ⟨keptRows q.distinct f base, rfl, rfl⟩
  · rw [hrows]
    exact hstable.map fun _ _ => rfl

/-- Two columns under each other's names, sorted by the name that one of them has in the result. -/
theorem answer_orderBy_swappedNames :
    let statements := ["CREATE TABLE t (a INT, b TEXT)", "INSERT INTO t (a, b) VALUES (1, 'x')",
      "INSERT INTO t (a, b) VALUES (null, 'w')", "INSERT INTO t (a, b) VALUES (2, 'y')",
      "INSERT INTO t (a, b) VALUES (1, 'z')"]
    let q : Query :=
      { distinct := false, items := [.column "b" "a", .column "a" "b"], source := ⟨"t", none⟩
        joins := [], filter := none, groupBy := none, having := none
        orderBy := some ⟨"b", .descending⟩, limit := none, offset := none }
    let rows : List Row := [[.text "y", .integer 2], [.text "x", .integer 1],
      [.text "z", .integer 1], [.text "w", .null]]
    q.answer (Session.executeAll ∅ statements).2 = .ok ⟨["a", "b"], rows⟩ ∧
      StablySorted SortDirection.descending.Precedes (cellAt · 1)
        [[.text "x", .integer 1], [.text "w", .null], [.text "y", .integer 2],
          [.text "z", .integer 1]] rows := by
  intro statements q rows
  have hc : (Session.executeAll ∅ statements).2 =
      ⟨.ofList [("t", ⟨⟨"t", [⟨"a", .integer⟩, ⟨"b", .text⟩], none⟩, [[.integer 1, .text "x"],
        [.null, .text "w"], [.integer 2, .text "y"], [.integer 1, .text "z"]]⟩)]⟩ := by
    decide +kernel
  have hanswer : q.answer (Session.executeAll ∅ statements).2 = .ok ⟨["a", "b"], rows⟩ := by
    rw [hc]
    rfl
  have hunsorted : { q with orderBy := none }.answer (Session.executeAll ∅ statements).2 =
      .ok ⟨["a", "b"], [[.text "x", .integer 1], [.text "w", .null], [.text "y", .integer 2],
        [.text "z", .integer 1]]⟩ := by
    rw [hc]
    rfl
  have hholds : ∀ row ∈ rows, ColumnType.integer.Holds (cellAt row 1) := by
    simp [rows, cellAt, ColumnType.Holds]
  obtain ⟨unsorted, h, -, hsorted⟩ := answer_orderBy statements (q := q)
    (fun h => Bool.false_ne_true h.2) rfl rfl rfl hanswer (by decide) rfl hholds
  cases hunsorted.symm.trans h
  exact ⟨hanswer, hsorted⟩

/-! ## Distinct answers -/

/-- Whether a query has an answer does not depend on whether its rows are to be distinct. -/
theorem exists_answer_distinct (hc : c.Valid) (hq : ¬ q.AggregatesAll) (hlimit : q.limit = none)
    (hoffset : q.offset = none) (distinct : Bool) (h : q.answer c = .ok r) :
    ∃ result, { q with distinct }.answer c = .ok result := by
  obtain ⟨p, base, f, -, hvariants⟩ := answer_variants hc hq hlimit hoffset h
  obtain ⟨sorted, hsorted, -⟩ := (hvariants q.distinct q.orderBy r).mp h
  have hcolumns : (keptRows distinct f base).columns = (keptRows q.distinct f base).columns := by
    rw [keptRows_columns, keptRows_columns]
  obtain ⟨other, hother⟩ := exists_sortedRows hsorted hcolumns
  exact ⟨_, (hvariants distinct q.orderBy _).mpr ⟨other, hother, rfl⟩⟩

/-- **The distinct rows in order are the first of the rows in order**, if they are sorted by a
column of the result. -/
theorem rows_eq_firstBy_sortedRows {p : Presentation} {base first sorted : Relation}
    {columns : List String} {f : Row → Row} {orderBy : Option SortKey}
    (hmakes : p.Makes base columns f)
    (hfirst : sortedRows p orderBy (keptRows true f base) = .ok first)
    (hsorted : sortedRows p orderBy (keptRows false f base) = .ok sorted)
    (hsort : ∀ key ∈ orderBy, columns.Nodup ∧ ∃ i, columns[i]? = some key.column ∧
      ∃ type : ColumnType, ∀ row ∈ first.rows, type.Holds (cellAt (f row) i)) :
    first.rows = firstBy f sorted.rows := by
  cases orderBy with
  | none =>
      cases hfirst
      cases hsorted
      rfl
  | some key =>
      obtain ⟨hnodup, i, hi, type, hholds⟩ := hsort key rfl
      -- every row makes a row of the result that one of the first rows makes
      have hsortedHolds : ∀ row ∈ sorted.rows, type.Holds (cellAt (f row) i) := by
        intro row hrow
        have hbase := (perm_of_sortedRows hsorted).mem_iff.mp hrow
        obtain ⟨other, hother, heq⟩ : ∃ other ∈ firstBy f base.rows, f other = f row :=
          exists_mem_firstBy hbase
        rw [← heq]
        exact hholds other ((perm_of_sortedRows hfirst).mem_iff.mpr hother)
      have hstable := stablySorted_sortedRows hmakes hnodup hi hsorted hsortedHolds
      have hstableFirst := stablySorted_sortedRows hmakes hnodup hi hfirst hholds
      exact hstableFirst.unique (fun _ _ => SortDirection.Precedes.antisymm)
        (hstable.firstBy f (cellAt · i))

/-- **An answer of distinct rows is the answer of all rows with every repetition erased.**  On the
catalog that a run of statements ends with, take a query that is not cut and does not aggregate
everything.  It succeeds with distinct rows just if it does with all rows, in the same columns.  If
it is not sorted, or sorted by a column of its result, the names of the columns being different and
the values in the column nulls and of one kind, then its distinct rows are its rows with every one
erased that is equal to an earlier one, so no two of them are equal. -/
theorem answer_distinct (statements : List String) (hq : ¬ q.AggregatesAll)
    (hlimit : q.limit = none) (hoffset : q.offset = none) :
    let c := (Session.executeAll ∅ statements).2
    ((∃ r, { q with distinct := true }.answer c = .ok r) ↔
      ∃ all, { q with distinct := false }.answer c = .ok all) ∧
    ∀ r all, { q with distinct := true }.answer c = .ok r →
      { q with distinct := false }.answer c = .ok all →
      (∀ key ∈ q.orderBy, r.columns.Nodup ∧ ∃ i, r.columns[i]? = some key.column ∧
        ∃ type : ColumnType, ∀ row ∈ r.rows, type.Holds (cellAt row i)) →
      r.columns = all.columns ∧ r.rows = all.rows.eraseDups ∧ r.rows.Nodup := by
  intro c
  have hc : c.Valid := Catalog.valid_executeAll statements
  have hvariant : ∀ distinct : Bool, ¬ { q with distinct }.AggregatesAll := fun _ => hq
  refine ⟨⟨?_, ?_⟩, fun r all h hall hsort => ?_⟩
  · rintro ⟨r, h⟩
    exact exists_answer_distinct hc (hvariant true) hlimit hoffset false h
  · rintro ⟨all, h⟩
    exact exists_answer_distinct hc (hvariant false) hlimit hoffset true h
  · obtain ⟨p, base, f, hmakes, hvariants⟩ := answer_variants hc (hvariant true) hlimit hoffset h
    obtain ⟨first, hfirst, hr⟩ := (hvariants true q.orderBy r).mp h
    obtain ⟨sorted, hsorted, rfl⟩ := (hvariants false q.orderBy all).mp hall
    have hrows : r.rows = first.rows.map f := by rw [← hr]
    have hfirstRows : first.rows = firstBy f sorted.rows := by
      refine rows_eq_firstBy_sortedRows hmakes hfirst hsorted fun key hkey => ?_
      obtain ⟨hnodup, i, hi, type, hholds⟩ := hsort key hkey
      exact ⟨hnodup, i, hi, type, fun row hrow =>
        hholds (f row) (hrows ▸ List.mem_map_of_mem hrow)⟩
    have hrowsFirst : r.rows = (firstBy f sorted.rows).map f := by rw [hrows, hfirstRows]
    refine ⟨rfl, ?_, ?_⟩
    · rw [hrowsFirst, map_firstBy]
    · rw [hrowsFirst, List.nodup_iff_pairwise_ne, List.pairwise_map]
      exact pairwise_firstBy f sorted.rows

/-- A column with repetitions in it, nulls among them, under another name and sorted by that. -/
theorem answer_distinct_repeatedNull :
    let statements := ["CREATE TABLE t (a INT, b TEXT)", "INSERT INTO t (a, b) VALUES (2, 'x')",
      "INSERT INTO t (a, b) VALUES (null, 'w')", "INSERT INTO t (a, b) VALUES (2, 'y')",
      "INSERT INTO t (a, b) VALUES (null, 'z')"]
    let q : Query :=
      { distinct := true, items := [.column "a" "b"], source := ⟨"t", none⟩, joins := []
        filter := none, groupBy := none, having := none, orderBy := some ⟨"b", .ascending⟩
        limit := none, offset := none }
    let rows : List Row := [[.null], [.null], [.integer 2], [.integer 2]]
    q.answer (Session.executeAll ∅ statements).2 = .ok ⟨["b"], [[.null], [.integer 2]]⟩ ∧
      { q with distinct := false }.answer (Session.executeAll ∅ statements).2 =
        .ok ⟨["b"], rows⟩ ∧
      [[Value.null], [.integer 2]] = rows.eraseDups := by
  intro statements q rows
  have hc : (Session.executeAll ∅ statements).2 =
      ⟨.ofList [("t", ⟨⟨"t", [⟨"a", .integer⟩, ⟨"b", .text⟩], none⟩, [[.integer 2, .text "x"],
        [.null, .text "w"], [.integer 2, .text "y"], [.null, .text "z"]]⟩)]⟩ := by
    decide +kernel
  have hanswer : q.answer (Session.executeAll ∅ statements).2 =
      .ok ⟨["b"], [[.null], [.integer 2]]⟩ := by
    rw [hc]
    rfl
  have hall : { q with distinct := false }.answer (Session.executeAll ∅ statements).2 =
      .ok ⟨["b"], rows⟩ := by
    rw [hc]
    rfl
  obtain ⟨-, hdistinct⟩ := answer_distinct statements (q := q) (fun h => Bool.false_ne_true h.2)
    rfl rfl
  obtain ⟨-, hrows, -⟩ := hdistinct _ _ hanswer hall (by
    intro key hkey
    cases hkey
    refine ⟨by decide, 0, rfl, .integer, ?_⟩
    simp [cellAt, ColumnType.Holds])
  exact ⟨hanswer, hall, hrows⟩

end Query

end RelStore
