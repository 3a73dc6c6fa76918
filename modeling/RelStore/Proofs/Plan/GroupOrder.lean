import Mathlib.Data.List.Perm.Subperm
import RelStore.Proofs.Plan.KeyedGroup
import RelStore.Proofs.Plan.Ordered
import RelStore.Proofs.Plan.SourceTypes
import RelStore.Proofs.Relation.Groups
import RelStore.Proofs.Relation.Layout

/-!
# Groups in the order of a column grouped by

A grouped query is sorted when its groups have become rows, by a name of the result.  A column that
is grouped by may still be sorted by under its name in the source: the planner puts the name under
which the column is selected in its place.  Then the sort looks this name up in the result.

| step | name | column |
| --- | --- | --- |
| planning | of the source | the first item that selects the column, if no item bears the name |
| sorting | of the item | the first column of the result that bears the name |

The two columns are the same unless another column of the result, of an item or of a star, bears the
name before.  The rows are in the order of the one that the sort finds, so the groups they stand for
are in the order of the source's column that this one shows (`Query.answer_orderBy_sourceName`).
-/

namespace RelStore

universe u v

/-- Some of the images of elements are the images of some of the elements. -/
theorem exists_map_of_subperm {α : Type u} {β : Type v} {f : α → β} {l : List α} {images : List β}
    (h : images.Subperm (l.map f)) : ∃ kept : List α, images = kept.map f ∧ kept.Subperm l := by
  obtain ⟨ordered, hperm, hsublist⟩ := h
  obtain ⟨sub, hsub, rfl⟩ := List.sublist_map_iff.mp hsublist
  have hcomp :
      Relation.Comp (fun images kept => images = List.map f kept) List.Perm images sub := by
    rw [List.eq_map_comp_perm]
    exact hperm.symm
  obtain ⟨kept, hkept, hsame⟩ := hcomp
  exact ⟨kept, hkept, hsame.subperm.trans hsub.subperm⟩

/-! ## The rows of a query -/

/-- The values of the rows that a query selects are position by position of one kind. -/
theorem Query.Selects.exists_fits {c : Catalog} (hc : c.Valid) {q : Query} {types : ColumnTypes}
    {selected : Relation} (h : q.Selects c types selected) :
    ∃ declared, selected.Fits declared := by
  obtain ⟨source, filtered, hstages, hfilter, -, hrun⟩ := h
  obtain ⟨joined, hjoined, hcolumns, hrows⟩ := Plan.subset_of_filterStage hfilter hrun
  obtain ⟨declared, -, hdescribes⟩ := Plan.describes_sourceStages hc hstages
  exact ⟨declared, (hdescribes.fits joined hjoined).of_subset hcolumns hrows⟩

/-- **Rows that are arranged by a key are some of the rows, in its order**, if the values of its
column are of one kind. -/
theorem Query.exists_sorted_of_arrange {q : Query} {distinctOn : Option (List String)}
    {key : SortKey} {base arranged : Relation}
    (h : q.arrange distinctOn (some key) base = .ok arranged) :
    ∃ i, position base.columns key.column = .ok i ∧ arranged.rows.Subperm base.rows ∧
      ∀ type : ColumnType, (∀ row ∈ base.rows, type.Holds (cellAt row i)) →
        arranged.rows.Pairwise fun row other =>
          key.direction.Precedes (cellAt row i) (cellAt other i) := by
  obtain ⟨kept, hkept, h⟩ := bind_eq_ok_iff.mp h
  obtain ⟨sorted, hsorted, h⟩ := bind_eq_ok_iff.mp h
  obtain ⟨i, hi, rfl⟩ := Relation.sort_eq_ok_iff.mp hsorted
  have hkeptRows : kept.columns = base.columns ∧ kept.rows.Sublist base.rows := by
    -- distinct rows are the first of those that agree, in their order
    split at hkept
    · obtain ⟨positions, rfl⟩ := Relation.distinct_eq_ok hkept
      exact ⟨rfl, firstBy_sublist _ _⟩
    · cases hkept
      exact ⟨rfl, List.Sublist.refl _⟩
  have hcut : arranged.rows.Sublist (stableSort (fun row other =>
      key.direction.before (cellAt row i) (cellAt other i)) kept.rows) := by
    cases h
    cases q.limit <;> cases q.offset
    · exact .refl _
    · exact List.drop_sublist _ _
    · exact List.take_sublist _ _
    · exact (List.take_sublist _ _).trans (List.drop_sublist _ _)
  refine ⟨i, hkeptRows.1 ▸ hi, ?_, fun type hholds => ?_⟩
  · exact hcut.subperm.trans ((stableSort_perm _ _).subperm.trans hkeptRows.2.subperm)
  · have hholdsKept : ∀ row ∈ kept.rows, type.Holds (cellAt row i) :=
      fun row hrow => hholds row (hkeptRows.2.subset hrow)
    exact (stablySorted_stableSort key.direction hholdsKept).ordered.sublist hcut

/-! ## Names of the source and of the result -/

/-- A column that is selected is sorted by under the name that the first item for it bears. -/
theorem outputOfSource?_eq_some {items : List SelectItem} {name out : String}
    (hunnamed : ∀ item ∈ items, item.outputName? ≠ some name)
    (hselected : items.find? (·.sourceName? = some name) = some (.column name out)) :
    outputOfSource? items name = some out := by
  have hnone : ¬ items.any (·.outputName? = some name) = true := by simpa using hunnamed
  unfold outputOfSource?
  rw [if_neg hnone]
  clear hunnamed hnone
  induction items with
  | nil => contradiction
  | cons item items ih =>
      rw [List.find?_cons] at hselected
      rw [List.findSome?_cons]
      cases item with
      | star => exact ih hselected
      | aggregate _ _ => exact ih hselected
      | column source output =>
          by_cases hsource : source = name
          · subst hsource
            simpa [SelectItem.sourceName?] using hselected
          · simp only [SelectItem.sourceName?, Option.some.injEq, hsource, decide_false]
              at hselected
            simp only [if_neg hsource]
            exact ih hselected

/-- **A name of the result means the first of its columns that bears the name.** -/
theorem position_of_find? {columns : List String} {types : ColumnTypes} {positions : List Nat}
    {shown : List SelectItem} {fields : List OutputField}
    (h : List.Forall₂ (Lays columns types positions) shown fields) {name : String}
    {item : SelectItem} (hfind : shown.find? (·.outputName? = some name) = some item) :
    ∃ j field, position (fields.map (·.name)) name = .ok j ∧ fields[j]? = some field ∧
      Lays columns types positions item field := by
  have hidx : ∃ j field, (fields.map (·.name)).idxOf? name = some j ∧ fields[j]? = some field ∧
      Lays columns types positions item field := by
    induction h with
    | nil => contradiction
    | @cons first field shown fields hfirst _ ih =>
        rw [List.find?_cons, hfirst.outputName?_eq] at hfind
        rw [List.map_cons, List.idxOf?_cons]
        by_cases hname : field.name = name
        · simp only [hname, decide_true, Option.some.injEq] at hfind
          subst hfind
          exact ⟨0, field, by simp [hname], rfl, hfirst⟩
        · simp only [Option.some.injEq, hname, decide_false] at hfind
          obtain ⟨j, field', hj, hfield, hlays⟩ := ih hfind
          exact ⟨j + 1, field', by simp [hname, hj], hfield, hlays⟩
  obtain ⟨j, field, hj, hfield, hlays⟩ := hidx
  refine ⟨j, field, ?_, hfield, hlays⟩
  unfold position position?
  rw [hj]

/-! ## Groups and their rows -/

namespace Relation

variable {r base : Relation} {groupBy : List String} {items : List SelectItem}
  {having : Option ConditionGroup} {types : ColumnTypes} {g : BoundGrouping}

/-- A column of the result that shows a column of the source has the value of the group's rows. -/
theorem cellAt_rowOf {name : String} {i j : Nat} {field : OutputField} {out : String}
    (hi : position r.columns name = .ok i) (hfield : g.fields[j]? = some field)
    (hlays : Lays r.columns types g.positions (.column name out) field) {group : List Row}
    (hgroup : group ∈ groupRows g.positions r.rows) {row : Row} (hrow : row ∈ group) :
    cellAt (g.rowOf group) j = cellAt row i := by
  cases hlays with
  | @column _ i' hi' hgrouped _ =>
      cases hi.symm.trans hi'
      rw [← read_position_of_mem hgroup hrow hgrouped (g.computed group)]
      unfold BoundGrouping.rowOf
      simp [cellAt, hfield]

/-- The row that a group becomes is what its rows answer by themselves. -/
theorem group_eq_rowOf (hg : bindGrouping r.columns groupBy items having types = .ok g)
    (hne : g.positions ≠ []) {group : List Row} (hgroup : group ∈ groupRows g.positions r.rows)
    (hcomputes : g.Computes group) (hkeeps : g.keeps group = true) :
    Relation.group ⟨r.columns, group⟩ groupBy items having types =
      .ok ⟨outputNames groupBy items, [g.rowOf group]⟩ := by
  have hgroups : groupsOf g.positions group = [group] := by
    rw [groupsOf_of_ne_nil hne, groupRows_of_mem hgroup]
  refine group_eq_ok_iff.mpr ⟨g, hg, ?_, ?_⟩
  · rw [hgroups]
    exact List.forall_mem_singleton.mpr hcomputes
  · rw [hgroups, List.filter_cons_of_pos hkeeps]
    rfl

/-- **Rows of groups in the order of a column stand for groups in the order of what it shows.**  Let
the first column of a grouped result with a name show a column of the source.  Some of the rows, in
the order of that column, stand one by one for groups, each being what its group answers by itself,
and the groups are in the order of their values in the source's column. -/
theorem exists_groups_in_order {declared : List (String × ColumnType)} (hfits : r.Fits declared)
    (hbase : r.group groupBy items having types = .ok base) {out source outputName : String}
    (hshown : (laidOut groupBy items).find? (·.outputName? = some out) =
      some (.column source outputName))
    {direction : SortDirection} {rows : List Row} {j : Nat} (hj : position base.columns out = .ok j)
    (hsome : rows.Subperm base.rows)
    (hsorted : ∀ type : ColumnType, (∀ row ∈ base.rows, type.Holds (cellAt row j)) →
      rows.Pairwise fun row other => direction.Precedes (cellAt row j) (cellAt other j)) :
    ∃ positions i groups, groupBy.mapM (position r.columns) = .ok positions ∧
      position r.columns source = .ok i ∧ groups.Subperm (groupsOf positions r.rows) ∧
      List.Forall₂ (fun row group => group ≠ [] ∧
        Relation.group ⟨r.columns, group⟩ groupBy items having types =
          .ok ⟨base.columns, [row]⟩) rows groups ∧
      groups.Pairwise fun group other => ∀ row ∈ group, ∀ row' ∈ other,
        direction.Precedes (cellAt row i) (cellAt row' i) := by
  obtain ⟨g, hg, hcomputes, rfl⟩ := group_eq_ok_iff.mp hbase
  obtain ⟨j', field, hj', hfield, hlays⟩ := position_of_find? (lays_of_bindGrouping hg) hshown
  rw [map_name_of_lays (lays_of_bindGrouping hg)] at hj'
  cases hj.symm.trans hj'
  obtain ⟨i, hi, hgrouped⟩ : ∃ i, position r.columns source = .ok i ∧ i ∈ g.positions := by
    cases hlays with
    | column hi hgrouped => exact ⟨_, hi, hgrouped⟩
  have hne : g.positions ≠ [] := List.ne_nil_of_mem hgrouped
  have hgroups : groupsOf g.positions r.rows = groupRows g.positions r.rows :=
    groupsOf_of_ne_nil hne r.rows
  rw [hgroups] at hcomputes hsome hsorted
  obtain ⟨groups, rfl, hkept⟩ := exists_map_of_subperm hsome
  have hmem : ∀ group ∈ groups, group ∈ groupRows g.positions r.rows ∧ g.keeps group = true :=
    fun group hgroup => List.mem_filter.mp (hkept.subset hgroup)
  have hcell : ∀ group ∈ groupRows g.positions r.rows, ∀ row ∈ group,
      cellAt (g.rowOf group) j = cellAt row i :=
    fun group hgroup row hrow => cellAt_rowOf hi hfield hlays hgroup hrow
  refine ⟨g.positions, i, groups, (bindGrouping_eq_ok hg).1, hi, ?_, ?_, ?_⟩
  · rw [hgroups]
    exact hkept.trans List.filter_sublist.subperm
  · rw [List.forall₂_map_left_iff, List.forall₂_same]
    intro group hgroup
    obtain ⟨hgroup, hkeeps⟩ := hmem group hgroup
    exact ⟨ne_nil_of_mem_groupRows hgroup,
      group_eq_rowOf hg hne hgroup (hcomputes group hgroup) hkeeps⟩
  · -- the values of the column are of its declared type, so the rows are sorted by it
    obtain ⟨type, hcolumn⟩ := hfits.exists_holds (lt_length_of_position_eq_ok hi)
    have hholds : ∀ row ∈ ((groupRows g.positions r.rows).filter g.keeps).map g.rowOf,
        type.Holds (cellAt row j) := by
      intro row hrow
      obtain ⟨group, hgroup, rfl⟩ := List.mem_map.mp hrow
      obtain ⟨hgroup, -⟩ := List.mem_filter.mp hgroup
      obtain ⟨row, hrow⟩ := List.exists_mem_of_ne_nil group (ne_nil_of_mem_groupRows hgroup)
      rw [hcell group hgroup row hrow]
      exact hcolumn row (subset_of_mem_groupsOf (hgroups ▸ hgroup) hrow)
    refine (List.pairwise_map.mp (hsorted _ hholds)).imp_of_mem ?_
    intro group other hgroup hother hle row hrow row' hrow'
    rwa [hcell group (hmem group hgroup).1 row hrow,
      hcell other (hmem other hother).1 row' hrow'] at hle

end Relation

namespace Query

variable {q : Query} {r : Relation} {groupBy : List String} {key : SortKey}

/-- **A grouped query that is sorted by a name of the source is sorted by a column grouped by.**  On
the catalog that a run of statements ends with, let a grouped query be sorted by a name that no item
of its select list gives, but by which an item selects a column.  If the first column of the result
with the name that this item gives shows the column `source`, then the rows of the answer stand one
by one for groups of the rows selected, each being what its group answers by itself, and these
groups are in the order of their values in `source`.

So the query is sorted by the column that the name means, if this is the first column of the result
with the name that it is given. -/
theorem answer_orderBy_sourceName (statements : List String) (hgroup : q.groupBy = some groupBy)
    (horder : q.orderBy = some key)
    (hunnamed : ∀ item ∈ q.items, item.outputName? ≠ some key.column) {out source : String}
    (hselected : q.items.find? (·.sourceName? = some key.column) = some (.column key.column out))
    (hshown : (laidOut groupBy q.items).find? (·.outputName? = some out) =
      some (.column source out))
    (h : q.answer (Session.executeAll ∅ statements).2 = .ok r) :
    ∃ types selected positions i groups,
      q.Selects (Session.executeAll ∅ statements).2 types selected ∧
      groupBy.mapM (position selected.columns) = .ok positions ∧
      position selected.columns source = .ok i ∧
      groups.Subperm (groupsOf positions selected.rows) ∧
      List.Forall₂ (fun row group => group ≠ [] ∧
        Relation.group ⟨selected.columns, group⟩ groupBy q.items q.having types =
          .ok ⟨r.columns, [row]⟩) r.rows groups ∧
      groups.Pairwise fun group other => ∀ row ∈ group, ∀ row' ∈ other,
        key.direction.Precedes (cellAt row i) (cellAt row' i) := by
  have hq : ¬ q.AggregatesAll := fun h => Option.some_ne_none _ (hgroup.symm.trans h.1)
  obtain ⟨types, selected, hselects, hpresent⟩ := (answer_eq_ok_iff hq).mp h
  obtain ⟨base, arranged, hbase, harrange, hproject⟩ := present_eq_ok_iff.mp hpresent
  have hpresentation : q.presentation types = .grouped groupBy q.items q.having types :=
    presentation_eq_grouped hgroup (List.mem_of_find?_eq_some hselected) SelectItem.noConfusion
      types
  rw [hpresentation] at hbase harrange hproject
  cases hproject
  have hkey : q.orderBy.map (Plan.renameKey (outputOfSource? q.items)) =
      some ⟨out, key.direction⟩ := by
    rw [horder, Option.map_some]
    unfold Plan.renameKey
    rw [outputOfSource?_eq_some hunnamed hselected]
    rfl
  dsimp only [Presentation.grouped] at hbase harrange
  rw [hkey] at harrange
  obtain ⟨j, hj, hsome, hsorted⟩ := exists_sorted_of_arrange harrange
  obtain ⟨declared, hfits⟩ := hselects.exists_fits (Catalog.valid_executeAll statements)
  obtain ⟨positions, i, groups, hpositions, hi, hgroups, hrows, hordered⟩ :=
    Relation.exists_groups_in_order hfits hbase hshown hj hsome hsorted
  rw [← columns_of_arrange harrange] at hrows
  exact ⟨types, selected, positions, i, groups, hselects, hpositions, hi, hgroups, hrows, hordered⟩

/-- A column under the name of another one, in descending order: the key that is null comes last. -/
theorem answer_orderBy_sourceName_otherName :
    let statements := ["CREATE TABLE t (a INT, b TEXT)", "INSERT INTO t (a, b) VALUES (1, 'x')",
      "INSERT INTO t (a, b) VALUES (null, 'y')", "INSERT INTO t (a, b) VALUES (2, 'x')",
      "INSERT INTO t (a, b) VALUES (1, 'x')"]
    let c := (Session.executeAll ∅ statements).2
    let q : Query :=
      { distinct := false, items := [.column "a" "b", .aggregate ⟨.count, none⟩ "n", .star]
        source := ⟨"t", none⟩, joins := [], filter := none, groupBy := some ["b", "a"]
        having := none, orderBy := some ⟨"a", .descending⟩, limit := none, offset := none }
    let r : Relation := ⟨["b", "n", "b", "a"],
      [[.integer 2, .integer 1, .text "x", .integer 2],
        [.integer 1, .integer 2, .text "x", .integer 1],
        [.null, .integer 1, .text "y", .null]]⟩
    q.answer c = .ok r ∧
      ∃ (types : ColumnTypes) (selected : Relation) (groups : List (List Row)),
        q.Selects c types selected ∧ groups.length = 3 ∧
        groups.Subperm (groupsOf [1, 0] selected.rows) ∧
        groups.Pairwise fun group other => ∀ row ∈ group, ∀ row' ∈ other,
          SortDirection.descending.Precedes (cellAt row 0) (cellAt row' 0) := by
  intro statements c q r
  have hc : c = ⟨.ofList [("t", ⟨⟨"t", [⟨"a", .integer⟩, ⟨"b", .text⟩], none⟩,
      [[.integer 1, .text "x"], [.null, .text "y"], [.integer 2, .text "x"],
        [.integer 1, .text "x"]]⟩)]⟩ := by decide +kernel
  have hanswer : q.answer c = .ok r := by
    rw [hc]
    decide +kernel
  have hselects : q.Selects c (.ofList [("a", .integer), ("b", .text)]) ⟨["a", "b"],
      [[.integer 1, .text "x"], [.null, .text "y"], [.integer 2, .text "x"],
        [.integer 1, .text "x"]]⟩ := by
    rw [hc]
    exact ⟨.scan "t", .scan "t", rfl, rfl, fun h => absurd h Bool.false_ne_true, rfl⟩
  have hshown : (laidOut ["b", "a"] q.items).find? (·.outputName? = some "b") =
      some (.column "a" "b") := rfl
  obtain ⟨types, selected, positions, i, groups, hselects', hpositions, hi, hgroups, hrows,
    hordered⟩ := answer_orderBy_sourceName statements (q := q) rfl rfl (by decide) rfl hshown
      hanswer
  obtain ⟨rfl, rfl⟩ := hselects.unique hselects'
  cases hpositions
  cases hi
  exact ⟨hanswer, _, _, groups, hselects, hrows.length_eq.symm, hgroups, hordered⟩

/-- Two columns under one name: sorted by the second, the rows are in the order of the first. -/
theorem answer_orderBy_sourceName_repeatedName :
    let c := (Session.executeAll ∅ ["CREATE TABLE t (a INT, b INT)",
      "INSERT INTO t (a, b) VALUES (1, 2)", "INSERT INTO t (a, b) VALUES (2, 1)"]).2
    let items : List SelectItem := [.column "a" "x", .column "b" "x"]
    let q : Query :=
      { distinct := false, items, source := ⟨"t", none⟩, joins := [], filter := none
        groupBy := some ["a", "b"], having := none, orderBy := some ⟨"b", .ascending⟩
        limit := none, offset := none }
    let rows : List Row := [[.integer 1, .integer 2], [.integer 2, .integer 1]]
    (∀ item ∈ items, item.outputName? ≠ some "b") ∧
      items.find? (·.sourceName? = some "b") = some (.column "b" "x") ∧
      q.answer c = .ok ⟨["x", "x"], rows⟩ ∧
      ¬ rows.Pairwise fun row other =>
        SortDirection.ascending.Precedes (cellAt row 1) (cellAt other 1) := by
  intro c items q rows
  have hc : c = ⟨.ofList [("t", ⟨⟨"t", [⟨"a", .integer⟩, ⟨"b", .integer⟩], none⟩,
      [[.integer 1, .integer 2], [.integer 2, .integer 1]]⟩)]⟩ := by decide +kernel
  refine ⟨by decide, rfl, ?_, ?_⟩
  · rw [hc]
    decide +kernel
  · simp [rows, cellAt, SortDirection.Precedes, Value.AtMost]

end Query

end RelStore
