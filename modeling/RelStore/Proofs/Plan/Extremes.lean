import RelStore.Proofs.Aggregate.Sorted
import RelStore.Proofs.Plan.Filtered
import RelStore.Proofs.Plan.GroupOrder

/-!
# Extremes and the first rows in order

The least value of a column can be asked for in two ways: by `MIN`, or by the column in ascending
order, of which the first value is taken that is not null.  `MAX` and the descending order go
together alike.  The two queries select the same rows.  One goes through them once and keeps the
value that no other beats, the other sorts them and projects them to the column
(`Query.present_orderedQuery`).  They answer the same value or fail alike
(`Query.answer_extremeQuery`).
-/

namespace RelStore

namespace Relation

variable {direction : SortDirection} {name out : String} {types : ColumnTypes}

/-- A single column is projected to under the name that the item gives it. -/
theorem project_column (r : Relation) (name out : String) :
    r.project [.column name out] =
      (position r.columns name).map fun i => ⟨[out], r.rows.map fun row => [cellAt row i]⟩ := by
  unfold project
  rw [mapM_singleton]
  dsimp only [selectedColumns]
  cases position r.columns name <;> rfl

/-- **The extreme of all rows is the first value of the sorted rows that is not null.** -/
theorem group_extreme_eq (r : Relation) (hholds : ∀ i, position r.columns name = .ok i →
      ∃ type : ColumnType, ∀ row ∈ r.rows, type.Holds (cellAt row i)) (label : String) :
    r.group [] [.aggregate ⟨direction.extreme, some name⟩ out] none types =
      (r.sort ⟨name, direction⟩ >>= fun sorted => sorted.project [.column name label]).map
        fun sorted => ⟨[out], [[firstNonNull (sorted.rows.map (cellAt · 0))]]⟩ := by
  rw [group_aggregate_eq]
  unfold sort
  dsimp only [Option.mapM_some]
  cases hi : position r.columns name with
  | error e => rfl
  | ok i =>
      obtain ⟨type, hcolumn⟩ := hholds i hi
      show (direction.extreme.fold (some i) r.rows).map _ =
        ((Relation.mk r.columns _).project [.column name label]).map _
      rw [SortDirection.fold_extreme_eq_firstNonNull hcolumn
        (stablySorted_stableSort direction hcolumn), project_column, hi]
      simp only [Except.map, List.map_map]
      rfl

end Relation

namespace Query

/-- The query for the extreme of a column of the rows that conditions let pass. -/
def extremeQuery (source : TableReference) (joins : List Join) (filter : Option ConditionGroup)
    (direction : SortDirection) (name out : String) : Query :=
  { wholeQuery source filter ⟨direction.extreme, some name⟩ out with joins }

/-- The query for this column in the order of its values. -/
def orderedQuery (source : TableReference) (joins : List Join) (filter : Option ConditionGroup)
    (direction : SortDirection) (name out : String) : Query :=
  { rowsQuery source filter with
    joins, items := [.column name out], orderBy := some ⟨name, direction⟩ }

variable {c : Catalog} {source : TableReference} {joins : List Join}
  {filter : Option ConditionGroup} {direction : SortDirection} {name out : String}
  {types : ColumnTypes}

/-- The column is sorted by itself, under whatever name it is selected. -/
theorem present_orderedQuery (r : Relation) :
    (orderedQuery source joins filter direction name out).present types r =
      r.sort ⟨name, direction⟩ >>= fun sorted => sorted.project [.column name out] := by
  have hkey : Plan.renameKey (sourceOfOutput? [.column name out]) ⟨name, direction⟩ =
      ⟨name, direction⟩ := by
    by_cases hname : out = name <;> simp [Plan.renameKey, sourceOfOutput?, hname]
  have harrange : ∀ distinctOn, (orderedQuery source joins filter direction name out).arrange
      distinctOn (some ⟨name, direction⟩) r = r.sort ⟨name, direction⟩ :=
    fun _ => bind_pure (r.sort ⟨name, direction⟩)
  unfold present
  show (arrange _ _
    (some (Plan.renameKey (sourceOfOutput? [.column name out]) ⟨name, direction⟩)) r >>=
      fun sorted => sorted.project [.column name out]) = _
  rw [hkey, harrange]

/-- A column of the rows that a query selects has values of one kind. -/
theorem Selects.exists_holds (hc : c.Valid) {q : Query} {selected : Relation}
    (h : q.Selects c types selected) {i : Nat} (hi : position selected.columns name = .ok i) :
    ∃ type : ColumnType, ∀ row ∈ selected.rows, type.Holds (cellAt row i) := by
  obtain ⟨declared, hfits⟩ := h.exists_fits hc
  exact hfits.exists_holds (lt_length_of_position_eq_ok hi)

theorem answer_extremeQuery_eq :
    (extremeQuery source joins filter direction name out).answer c =
      ({ rowsQuery source filter with joins } : Query).select c >>= fun selected =>
        selected.2.group [] [.aggregate ⟨direction.extreme, some name⟩ out] none selected.1 :=
  answer_eq_bind_group ⟨rfl, rfl⟩ rfl

theorem answer_orderedQuery_eq :
    (orderedQuery source joins filter direction name out).answer c =
      ({ rowsQuery source filter with joins } : Query).select c >>= fun selected =>
        selected.2.sort ⟨name, direction⟩ >>= fun sorted => sorted.project [.column name out] := by
  have hq : ¬ (orderedQuery source joins filter direction name out).AggregatesAll :=
    fun h => Bool.false_ne_true h.2
  exact (answer_eq_bind hq).trans (bind_congr fun selected => present_orderedQuery selected.2)

/-- **The extreme of a column is the first value of the column in order that is not null.**  On the
catalog that a run of statements ends with, ask for the extreme of a column, and for the column in
the order of its values, of the rows of any tables joined that any conditions let pass.  The first
query answers the first value of the second answer that is not null, or fails as the second query
does.  If the rows can be selected and have the column, it answers a value, which is null just if
the column is null in all of them. -/
theorem answer_extremeQuery (statements : List String) (source : TableReference)
    (joins : List Join) (filter : Option ConditionGroup) (direction : SortDirection)
    (name out label : String) :
    let c := (Session.executeAll ∅ statements).2
    let extreme := (extremeQuery source joins filter direction name out).answer c
    extreme = ((orderedQuery source joins filter direction name label).answer c).map
        (fun sorted => ⟨[out], [[firstNonNull (sorted.rows.map (cellAt · 0))]]⟩) ∧
      ∀ selected i, ({ rowsQuery source filter with joins } : Query).answer c = .ok selected →
        position selected.columns name = .ok i →
        ∃ v, extreme = .ok ⟨[out], [[v]]⟩ ∧
          (v = .null ↔ ∀ row ∈ selected.rows, cellAt row i = .null) := by
  intro c extreme
  have hc : c.Valid := Catalog.valid_executeAll statements
  constructor
  · show (extremeQuery source joins filter direction name out).answer c = _
    rw [answer_extremeQuery_eq, answer_orderedQuery_eq]
    cases hselect : ({ rowsQuery source filter with joins } : Query).select c with
    | error e => rfl
    | ok selected =>
        have hselects := select_eq_ok_iff.mp hselect
        exact selected.2.group_extreme_eq (fun i => hselects.exists_holds hc) label
  · intro selected i hselected hi
    obtain ⟨types, hselects⟩ := answer_rowsQuery_eq_ok_iff.mp hselected
    obtain ⟨type, hcolumn⟩ := hselects.exists_holds hc hi
    obtain ⟨v, hfold, hfirst⟩ := direction.exists_fold_extreme hcolumn
    refine ⟨v, ?_, ?_⟩
    · show (extremeQuery source joins filter direction name out).answer c = _
      rw [answer_extremeQuery_eq, select_eq_ok_iff.mpr hselects, ok_bind]
      exact Relation.group_aggregate (optionMapM_some_eq_ok_iff.mpr ⟨i, hi, rfl⟩) hfold out
    · rw [hfirst.eq_null_iff]
      simp [nonNullAt]

/-- The least text of a column that has nulls, one of its texts in a row that is left out. -/
theorem answer_extremeQuery_leastText :
    let c := (Session.executeAll ∅ ["CREATE TABLE t (a INT, b TEXT)",
      "INSERT INTO t (a, b) VALUES (1, 'y')", "INSERT INTO t (a, b) VALUES (2, null)",
      "INSERT INTO t (a, b) VALUES (3, 'x')", "INSERT INTO t (a, b) VALUES (9, 'w')"]).2
    let filter : Option ConditionGroup := some ⟨.and, [⟨.column "a", .less, .integer 5⟩]⟩
    let extreme := (extremeQuery ⟨"t", none⟩ [] filter .ascending "b" "m").answer c
    (orderedQuery ⟨"t", none⟩ [] filter .ascending "b" "b").answer c =
        .ok ⟨["b"], [[.null], [.text "x"], [.text "y"]]⟩ ∧
      extreme = .ok ⟨["m"], [[.text "x"]]⟩ ∧
      ∃ v, extreme = .ok ⟨["m"], [[v]]⟩ ∧ v ≠ .null := by
  intro c filter extreme
  have hc : c = ⟨.ofList [("t", ⟨⟨"t", [⟨"a", .integer⟩, ⟨"b", .text⟩], none⟩,
      [[.integer 1, .text "y"], [.integer 2, .null], [.integer 3, .text "x"],
        [.integer 9, .text "w"]]⟩)]⟩ := by decide +kernel
  have hordered : (orderedQuery ⟨"t", none⟩ [] filter .ascending "b" "b").answer c =
      .ok ⟨["b"], [[.null], [.text "x"], [.text "y"]]⟩ := by
    rw [hc]
    decide +kernel
  have hselected : (rowsQuery ⟨"t", none⟩ filter).answer c = .ok ⟨["a", "b"],
      [[.integer 1, .text "y"], [.integer 2, .null], [.integer 3, .text "x"]]⟩ := by
    rw [hc]
    decide +kernel
  obtain ⟨hfirst, hvalue⟩ := answer_extremeQuery _ ⟨"t", none⟩ [] filter .ascending "b" "m" "b"
  refine ⟨hordered, hfirst.trans ?_, ?_⟩
  · rw [hordered]
    rfl
  · obtain ⟨v, hv, hnull⟩ := hvalue _ 1 hselected (by decide +kernel)
    refine ⟨v, hv, fun h => ?_⟩
    have hcell := hnull.mp h _ List.mem_cons_self
    exact Value.noConfusion hcell

end Query

end RelStore
