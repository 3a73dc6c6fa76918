import RelStore.Proofs.Store.KeyUpdate

/-!
# Updates made twice

An update tests each row before it writes to it, and what it writes depends on neither the row nor
the test.  So a row that has been written to is not changed by a second update, whether it passes
the test now or not; and a row that has not been written to does not pass the test now either.

| row before | after the first update | after the second |
| --- | --- | --- |
| passes the test | has the cells put in | the same cells are put in again, or it is left alone |
| does not pass it | as it was | as it was |

The rows of both updates are the same, and so the second check of the keys is the first one
(`Table.update_again`).
-/

namespace RelStore

/-- A cell of a row that is assigned is the last value put at its position, if there is one. -/
theorem getElem?_assignCells (bound : List (Nat × Value)) (row : Row) (i : Nat) :
    (assignCells bound row)[i]? = row[i]?.map ((bound.reverse.lookup i).getD ·) := by
  induction bound generalizing row with
  | nil => simp [assignCells]
  | cons assignment bound ih =>
      obtain ⟨j, w⟩ := assignment
      show (assignCells bound (row.set j w))[i]? = _
      rw [ih, List.reverse_cons, List.lookup_append, List.getElem?_set]
      by_cases hij : j = i
      · subst hij
        by_cases hlt : j < row.length
        · cases bound.reverse.lookup j <;> simp [hlt]
        · simp [hlt]
      · have hne : (i == j) = false := beq_false_of_ne (Ne.symm hij)
        simp [hij, List.lookup_cons, hne]

/-- **Cells that are put into a row once more change nothing.** -/
theorem assignCells_assignCells (bound : List (Nat × Value)) (row : Row) :
    assignCells bound (assignCells bound row) = assignCells bound row := by
  refine List.ext_getElem? fun i => ?_
  simp only [getElem?_assignCells, Option.map_map]
  cases bound.reverse.lookup i <;> rfl

theorem length_assignCells (bound : List (Nat × Value)) (row : Row) :
    (assignCells bound row).length = row.length := by
  induction bound generalizing row with
  | nil => rfl
  | cons assignment bound ih => exact (ih _).trans List.length_set

namespace Table

variable {t t' : Table} {assignments : NameMap Value} {test : Option EqualityTest}
  {bound : List (Nat × Value)} {boundTest : Option (Nat × Value)}

/-! ## The rows of one update -/

/-- The second row has the casts of the values assigned in their columns, and everywhere else what
the first row has. -/
structure Assigned (t : Table) (assignments : NameMap Value) (row row' : Row) : Prop where
  length_eq : row'.length = row.length
  cast_eq : ∀ name v, assignments.get? name = some v →
    ∃ i type, t.schema.locate name = .ok (i, type) ∧ type.cast v = .ok (cellAt row' i)
  cellAt_eq : ∀ i, (∀ name type, t.schema.locate name = .ok (i, type) →
    assignments.get? name = none) → cellAt row' i = cellAt row i

/-- Bound assignments put the casts of their values into a row. -/
theorem Valid.assigned_assignCells (ht : t.Valid) (h : t.bindAssignments assignments = .ok bound)
    {row : Row} (hrow : row ∈ t.rows) : t.Assigned assignments row (assignCells bound row) where
  length_eq := length_assignCells bound row
  cast_eq := by
    intro name v hvalue
    obtain ⟨i, type, w, hlocate, hcast⟩ := assigns_of_bindAssignments h name v hvalue
    refine ⟨i, type, hlocate, ?_⟩
    rw [ht.cellAt_assignCells h hlocate hvalue hcast hrow]
    exact hcast
  cellAt_eq := by
    intro i hnone
    refine cellAt_assignCells_of_notMem ?_ row
    rintro ⟨j, w⟩ hmem rfl
    obtain ⟨name, type, v, hvalue, hlocate, -⟩ := (mem_bound_iff h).mp hmem
    cases hvalue.symm.trans (hnone name type hlocate)

/-- **An update writes to the rows that pass its test, and leaves the others.** -/
theorem Valid.forall₂_updatedRows (ht : t.Valid) (h : t.bindAssignments assignments = .ok bound)
    (boundTest : Option (Nat × Value)) :
    List.Forall₂ (fun row row' =>
      if boundTest.all (matchesAt · row) then t.Assigned assignments row row' else row' = row)
      t.rows (updatedRows bound boundTest t.rows) := by
  unfold updatedRows
  rw [List.forall₂_map_right_iff, List.forall₂_same]
  intro row hrow
  by_cases hselected : boundTest.all (matchesAt · row) = true
  · rw [if_pos hselected, if_pos hselected]
    exact ht.assigned_assignCells h hrow
  · rw [if_neg hselected, if_neg hselected]

/-! ## The second update -/

/-- **Rows that are updated once more stay as they are.** -/
theorem updatedRows_updatedRows (bound : List (Nat × Value)) (boundTest : Option (Nat × Value))
    (rows : List Row) :
    updatedRows bound boundTest (updatedRows bound boundTest rows) =
      updatedRows bound boundTest rows := by
  unfold updatedRows
  rw [List.map_map]
  refine List.map_congr_left fun row _ => ?_
  rw [Function.comp_apply]
  by_cases hselected : boundTest.all (matchesAt · row) = true
  · rw [if_pos hselected, assignCells_assignCells, ite_self]
  · rw [if_neg hselected, if_neg hselected]

/-- **An update that succeeds can be made again, and changes nothing then.** -/
theorem update_again {count : Nat} (h : t.update assignments test = .ok (count, t')) :
    ∃ count', t'.update assignments test = .ok (count', t') := by
  obtain ⟨bound, boundTest, hbound, htest, hcheck, -, rfl⟩ := update_eq_ok h
  -- what is bound is read off the schema, which both tables have
  have hagain := update_of_bound (t := { t with rows := updatedRows bound boundTest t.rows })
    hbound htest (by
      rw [updatedRows_updatedRows]
      exact checkAssigned_eq_ok_iff.mpr hcheck)
  rw [updatedRows_updatedRows] at hagain
  exact ⟨_, hagain⟩

end Table

end RelStore
