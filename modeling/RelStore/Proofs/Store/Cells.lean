import RelStore.Proofs.Store.Change

/-!
# What the cells of a table have in common

Stored cells are literals that were cast.  So a property that casting keeps is one of all cells as
long as it is one of all literals: whatever an insertion or an update puts into a table has it, and
a deletion puts in nothing.
-/

namespace RelStore

/-- Every cell of the rows has the property. -/
def AllCells (P : Value → Prop) (rows : List Row) : Prop :=
  ∀ row ∈ rows, ∀ v ∈ row, P v

variable {P : Value → Prop}

/-- What is read beyond the end of a row is a null. -/
theorem cellAt_of_forall_mem {row : Row} (h : ∀ v ∈ row, P v) (hnull : P .null) (i : Nat) :
    P (cellAt row i) := by
  unfold cellAt
  cases hcell : row[i]? with
  | none => exact hnull
  | some v => exact h v (List.mem_of_getElem? hcell)

theorem AllCells.of_subset {rows rows' : List Row} (h : AllCells P rows) (hsubset : rows' ⊆ rows) :
    AllCells P rows' :=
  fun row hrow => h row (hsubset hrow)

theorem AllCells.append {rows rows' : List Row} (h : AllCells P rows) (h' : AllCells P rows') :
    AllCells P (rows ++ rows') :=
  List.forall_mem_append.mpr ⟨h, h'⟩

/-- A cell of a row with assigned cells is an assigned one or was there before. -/
theorem mem_assignCells {bound : List (Nat × Value)} {row : Row} {v : Value}
    (h : v ∈ assignCells bound row) : v ∈ row ∨ ∃ assignment ∈ bound, assignment.2 = v := by
  unfold assignCells at h
  induction bound generalizing row with
  | nil => exact .inl h
  | cons assignment bound ih =>
      rcases ih h with hset | ⟨other, hother, rfl⟩
      · rcases List.mem_or_eq_of_mem_set hset with hrow | rfl
        · exact .inl hrow
        · exact .inr ⟨assignment, List.mem_cons_self, rfl⟩
      · exact .inr ⟨other, List.mem_cons_of_mem _ hother, rfl⟩

theorem AllCells.updatedRows {rows : List Row} (h : AllCells P rows) {bound : List (Nat × Value)}
    (hbound : ∀ assignment ∈ bound, P assignment.2) (test : Option (Nat × Value)) :
    AllCells P (Table.updatedRows bound test rows) := by
  intro row hrow v hv
  obtain ⟨old, hold, rfl⟩ := List.mem_map.mp hrow
  split at hv
  · rcases mem_assignCells hv with hv | ⟨assignment, hassignment, rfl⟩
    · exact h old hold v hv
    · exact hbound assignment hassignment
  · exact h old hold v hv

/-! ## Cells that are cast -/

section Cast

variable (hcast : ∀ {type : ColumnType} {v w : Value}, type.cast v = .ok w → P v → P w)

include hcast

theorem forall_mem_of_rowOfPairs {columns : List Column} {pairs : List (String × Value)} {row : Row}
    (hpairs : ∀ pair ∈ pairs, P pair.2) (h : rowOfPairs columns pairs = .ok row) :
    ∀ v ∈ row, P v := by
  intro v hv
  obtain ⟨column, -, literal, hpair, h⟩ := exists_mem_of_forall₂ (forall₂_of_rowOfPairs h) hv
  exact hcast h (hpairs _ hpair)

variable {t t' : Table}

theorem forall_mem_of_bindAssignments {assignments : NameMap Value} {bound : List (Nat × Value)}
    (hassigned : ∀ entry ∈ assignments.entries, P entry.2)
    (h : t.bindAssignments assignments = .ok bound) : ∀ assignment ∈ bound, P assignment.2 := by
  intro assignment hassignment
  obtain ⟨entry, hentry, column, -, -, h⟩ :=
    exists_mem_of_forall₂ (Table.forall₂_of_bindAssignments h) hassignment
  exact hcast h (hassigned entry hentry)

theorem AllCells.insert (ht : AllCells P t.rows) {columns : List String} {values : List Value}
    (hvalues : ∀ v ∈ values, P v) (h : t.insert columns values = .ok t') :
    AllCells P t'.rows := by
  obtain ⟨-, row, hrow, -, rfl⟩ := Table.insert_eq_ok h
  have hpairs : ∀ pair ∈ (columns.zip values).reverse, P pair.2 := fun pair hpair =>
    hvalues _ (List.of_mem_zip (List.mem_reverse.mp hpair)).2
  have hcells := forall_mem_of_rowOfPairs hcast hpairs hrow
  exact ht.append fun other hother => by rwa [List.mem_singleton.mp hother]

theorem AllCells.update (ht : AllCells P t.rows) {assignments : NameMap Value}
    {test : Option EqualityTest} {count : Nat}
    (hassigned : ∀ entry ∈ assignments.entries, P entry.2)
    (h : t.update assignments test = .ok (count, t')) : AllCells P t'.rows := by
  obtain ⟨bound, boundTest, hbound, -, -, -, rfl⟩ := Table.update_eq_ok h
  exact ht.updatedRows (forall_mem_of_bindAssignments hcast hassigned hbound) boundTest

end Cast

theorem AllCells.delete {t t' : Table} (ht : AllCells P t.rows) {test : EqualityTest} {count : Nat}
    (h : t.delete test = .ok (count, t')) : AllCells P t'.rows := by
  obtain ⟨bound, -, -, rfl⟩ := Table.delete_eq_ok h
  exact ht.of_subset (List.filter_subset_self _)

end RelStore
