import RelStore.Proofs.Plan.Answer
import RelStore.Proofs.Plan.Shape
import RelStore.Proofs.Relation.Selected
import RelStore.Proofs.Relation.StableSort

/-!
# Results and the rows that they are made of

Rows are made distinct and sorted before they are projected, and by the names of other columns than
the result has.  `Presentation.Makes` says what is left of this for a reader of the result: a row of
it is made of one row, and rows that are kept and sorted by what they make are kept and sorted as
they are.

| presentation | a row makes | a name is sorted by as |
| --- | --- | --- |
| `whole` | itself | itself |
| `projected` | its selected values | the column that is selected under it |
| `grouped` | itself | a column of the result with the same values |
-/

namespace RelStore

/-- What the presentation makes of some rows: the result has the given columns, and each row of it
is made of one of the rows.  Rows are distinct as those of the result are, and a column of the
result, if its name is its own, has the values of the column that is sorted by for it. -/
structure Presentation.Makes (p : Presentation) (base : Relation) (columns : List String)
    (f : Row → Row) : Prop where
  project_eq : ∀ rows, p.project { base with rows } = .ok ⟨columns, rows.map f⟩
  distinct_eq : base.distinct p.distinctOn = .ok { base with rows := firstBy f base.rows }
  position_rename : ∀ column i, columns.Nodup → columns[i]? = some column →
    ∃ j, position base.columns ((p.rename column).getD column) = .ok j ∧
      ∀ row ∈ base.rows, cellAt (f row) i = cellAt row j

namespace Presentation

variable {base result : Relation} {rows : List Row}

theorem makes_whole (hbase : base.Shaped) : whole.Makes base base.columns id := by
  refine ⟨fun rows => ?_, hbase.distinct_none, fun column i hnodup hi => ?_⟩
  · rw [List.map_id]
    rfl
  · exact ⟨i, position_of_nodup hnodup hi, fun _ _ => rfl⟩

theorem makes_projected {items : List SelectItem}
    (h : (projected items).project { base with rows } = .ok result) :
    ∃ f, (projected items).Makes base result.columns f := by
  obtain ⟨lists, hlists, h⟩ := bind_eq_ok_iff.mp h
  cases h
  refine ⟨cellsAt (lists.flatten.map (·.1)), fun rows => ?_, ?_, fun column i hnodup hi => ?_⟩
  · exact bind_eq_ok_iff.mpr ⟨lists, hlists, rfl⟩
  · exact distinct_eq_firstBy base hlists
  · rw [List.getElem?_map, Option.map_eq_some_iff] at hi
    obtain ⟨⟨j, _⟩, hi, rfl⟩ := hi
    refine ⟨j, position_sourceOfOutput? hlists hnodup hi, fun row _ => cellAt_cellsAt ?_ row⟩
    rw [List.getElem?_map, hi]
    rfl

theorem makes_grouped {groupBy : List String} {items : List SelectItem}
    {having : Option ConditionGroup} {types : ColumnTypes} {selected : Relation}
    (h : selected.group groupBy items having types = .ok base) :
    (grouped groupBy items having types).Makes base base.columns id := by
  obtain ⟨g, hg, hcolumns, hrows⟩ := Relation.group_eq_ok h
  refine ⟨fun rows => ?_, (Relation.Shaped.group h).distinct_none, fun column i hnodup hi => ?_⟩
  · rw [List.map_id]
    rfl
  · rw [hcolumns] at hnodup hi ⊢
    rw [List.getElem?_map, Option.map_eq_some_iff] at hi
    obtain ⟨field, hi, rfl⟩ := hi
    obtain ⟨j, sorted, hj, hsource, hposition⟩ := position_outputOfSource? hg hnodup hi
    refine ⟨j, hposition, fun row hrow => ?_⟩
    obtain ⟨read, rfl⟩ := hrows row hrow
    simp [cellAt, hi, hj, hsource]

end Presentation

namespace Query

variable {c : Catalog} {q : Query} {types : ColumnTypes} {selected base result : Relation}

/-- **Every result is made row by row of the rows that are arranged.** -/
theorem exists_makes (hselected : selected.Shaped)
    (hbase : (q.presentation types).base selected = .ok base) {rows : List Row}
    (h : (q.presentation types).project { base with rows } = .ok result) :
    ∃ f, (q.presentation types).Makes base result.columns f := by
  unfold presentation at hbase h ⊢
  by_cases hstars : q.items.all (· == .star) = true
  · simp only [if_pos hstars] at hbase h ⊢
    cases hbase
    cases h
    exact ⟨id, Presentation.makes_whole hselected⟩
  · simp only [if_neg hstars] at hbase h ⊢
    cases hgroup : q.groupBy with
    | none =>
        rw [hgroup] at hbase h
        exact Presentation.makes_projected h
    | some groupBy =>
        rw [hgroup] at hbase h
        cases h
        exact ⟨id, Presentation.makes_grouped hbase⟩

end Query

end RelStore
