import RelStore.Proofs.Store.Row

/-!
# What a successful change of a table does

One lemma for each change says all that its success means; what is proved of
changes elsewhere goes through these and never opens a change again.

| change | on success |
| --- | --- |
| `insert` | one row is added at the end, its cells cast from the given values, its key new |
| `update` | the selected rows have the bound cells put in, no key twice if the key was assigned |
| `delete` | the selected rows are gone |
-/

namespace RelStore

/-! ## The row of an insertion -/

/-- Every cell of the row is the cast of a value given for its column. -/
theorem forall₂_of_rowOfPairs {columns : List Column} {pairs : List (String × Value)} {row : Row}
    (h : rowOfPairs columns pairs = .ok row) :
    List.Forall₂ (fun column cell => ∃ v, (column.name, v) ∈ pairs ∧ column.type.cast v = .ok cell)
      columns row := by
  induction columns generalizing pairs row with
  | nil =>
      cases h
      exact .nil
  | cons column columns ih =>
      unfold rowOfPairs at h
      split at h
      next => contradiction
      next v hv =>
        obtain ⟨cell, hcell, h⟩ := bind_eq_ok_iff.mp h
        obtain ⟨cells, hcells, h⟩ := bind_eq_ok_iff.mp h
        cases h
        have hmem : (column.name, v) ∈ pairs := by
          obtain ⟨before, after, hpairs, -⟩ := List.lookup_eq_some_iff.mp hv
          simp [hpairs]
        -- the pairs left for the other columns are some of those for all
        refine .cons ⟨v, hmem, hcell⟩ ((ih hcells).imp fun other cell' => ?_)
        rintro ⟨v', hv', hcast⟩
        exact ⟨v', (List.mem_filter.mp hv').1, hcast⟩

namespace Table

variable {t t' : Table}

/-- A new key is accepted when it is null or no stored key is equal to it. -/
theorem checkNewKey_eq_ok_iff {row : Row} :
    t.checkNewKey row = .ok () ↔
      ∀ name i, t.schema.keyColumn? = some (name, i) →
        cellAt row i = .null ∨ ∀ old ∈ t.rows, matchesAt (i, cellAt row i) old = false := by
  unfold checkNewKey
  split
  next hkey => simp [hkey]
  next name i hkey =>
    rw [hkey]
    by_cases hnull : cellAt row i = .null
    · simp [hnull, Value.isNull]
    · have hnotNull : (cellAt row i).isNull = false := Value.isNull_eq_false_iff.mpr hnull
      by_cases hany : t.rows.any (matchesAt (i, cellAt row i)) = true
      · simp only [hnotNull, hany, Bool.not_false, Bool.and_self, if_true, reduceCtorEq, false_iff]
        intro h
        obtain ⟨old, hold, hmatch⟩ := List.any_eq_true.mp hany
        rcases h name i rfl with h | h
        · exact hnull h
        · rw [h old hold] at hmatch
          contradiction
      · simp only [hany, Bool.and_false, Bool.false_eq_true, if_false, true_iff]
        intro name' i' hkey'
        cases hkey'
        refine .inr fun old hold => ?_
        simpa using fun h => hany (List.any_eq_true.mpr ⟨old, hold, h⟩)

/-- **An insertion adds one row whose key is new.** -/
theorem insert_eq_ok {columns : List String} {values : List Value}
    (h : t.insert columns values = .ok t') :
    columns.length = values.length ∧ ∃ row,
      rowOfPairs t.schema.columns (columns.zip values).reverse = .ok row ∧
      t.checkNewKey row = .ok () ∧ t' = { t with rows := t.rows ++ [row] } := by
  unfold Table.insert at h
  split at h
  next => contradiction
  next hlength =>
    obtain ⟨-, -, h⟩ := bind_eq_ok_iff.mp h
    obtain ⟨row, hrow, h⟩ := bind_eq_ok_iff.mp h
    obtain ⟨_, hkey, h⟩ := bind_eq_ok_iff.mp h
    cases h
    exact ⟨by simpa using hlength, row, hrow, hkey, rfl⟩

/-! ## The rows of an update -/

/-- The rows with the bound cells put into those that pass the test. -/
def updatedRows (bound : List (Nat × Value)) (test : Option (Nat × Value)) (rows : List Row) :
    List Row :=
  rows.map fun row => if test.all (matchesAt · row) then assignCells bound row else row

/-- Bound assignments are the casts of the literals, each at the position of its column. -/
theorem forall₂_of_bindAssignments {assignments : NameMap Value} {bound : List (Nat × Value)}
    (h : t.bindAssignments assignments = .ok bound) :
    List.Forall₂ (fun entry assignment => ∃ column,
      t.schema.columns[assignment.1]? = some column ∧ column.name = entry.1 ∧
        column.type.cast entry.2 = .ok assignment.2) assignments.entries bound := by
  unfold bindAssignments at h
  refine (mapM_eq_ok_iff.mp h).imp fun entry assignment hentry => ?_
  obtain ⟨⟨i, type⟩, hlocate, h⟩ := bind_eq_ok_iff.mp hentry
  obtain ⟨w, hcast, h⟩ := bind_eq_ok_iff.mp h
  cases h
  obtain ⟨column, hcolumn, hname, rfl⟩ := Schema.locate_eq_ok hlocate
  exact ⟨column, hcolumn, hname, hcast⟩

/-- The check of the rows of an update, which is made only if there is a key and it is assigned. -/
def checkAssigned (t : Table) (bound : List (Nat × Value)) (rows : List Row) : Except Error Unit :=
  match t.schema.keyColumn? with
  | some (name, i) => if bound.any (·.1 == i) then checkKeys name i rows else .ok ()
  | none => .ok ()

theorem checkAssigned_eq_ok_iff {bound : List (Nat × Value)} {rows : List Row} :
    t.checkAssigned bound rows = .ok () ↔
      ∀ name i, t.schema.keyColumn? = some (name, i) → bound.any (·.1 == i) = true →
        checkKeys name i rows = .ok () := by
  unfold checkAssigned
  cases t.schema.keyColumn? with
  | none => simp
  | some key =>
      obtain ⟨name, i⟩ := key
      dsimp only
      split
      next hassigned =>
        exact ⟨fun h _ _ hkey _ => by cases hkey; exact h, fun h => h name i rfl hassigned⟩
      next hnot =>
        exact ⟨fun _ _ _ hkey h => by cases hkey; exact absurd h hnot, fun _ => rfl⟩

theorem checkAssigned_eq_error {bound : List (Nat × Value)} {rows : List Row} {e : Error}
    (h : t.checkAssigned bound rows = .error e) :
    ∃ name i, t.schema.keyColumn? = some (name, i) ∧ bound.any (·.1 == i) = true ∧
      checkKeys name i rows = .error e := by
  unfold checkAssigned at h
  split at h
  next name i hkey =>
    split at h
    next hassigned => exact ⟨name, i, hkey, hassigned, h⟩
    next => contradiction
  next => contradiction

/-- An update binds its assignments and its test, checks the rows it would make, and makes them. -/
theorem update_eq (t : Table) (assignments : NameMap Value) (test : Option EqualityTest) :
    t.update assignments test = do
      let bound ← t.bindAssignments assignments
      let boundTest ← test.mapM t.bindTest
      t.checkAssigned bound (updatedRows bound boundTest t.rows)
      return (t.rows.countP (fun row => boundTest.all (matchesAt · row)),
        { t with rows := updatedRows bound boundTest t.rows }) := by
  unfold Table.update checkAssigned updatedRows
  refine bind_congr fun bound => bind_congr fun boundTest => ?_
  cases t.schema.keyColumn? with
  | none => rfl
  | some key =>
      dsimp only
      split <;> rfl

/-- **An update assigns the selected rows, and leaves no key twice if it assigns the key.** -/
theorem update_eq_ok {assignments : NameMap Value} {test : Option EqualityTest} {count : Nat}
    (h : t.update assignments test = .ok (count, t')) :
    ∃ bound boundTest, t.bindAssignments assignments = .ok bound ∧
      test.mapM t.bindTest = .ok boundTest ∧
      (∀ name i, t.schema.keyColumn? = some (name, i) → bound.any (·.1 == i) = true →
        checkKeys name i (updatedRows bound boundTest t.rows) = .ok ()) ∧
      count = t.rows.countP (fun row => boundTest.all (matchesAt · row)) ∧
      t' = { t with rows := updatedRows bound boundTest t.rows } := by
  rw [update_eq] at h
  obtain ⟨bound, hbound, h⟩ := bind_eq_ok_iff.mp h
  obtain ⟨boundTest, htest, h⟩ := bind_eq_ok_iff.mp h
  obtain ⟨_, hcheck, h⟩ := bind_eq_ok_iff.mp h
  cases h
  exact ⟨bound, boundTest, hbound, htest, checkAssigned_eq_ok_iff.mp hcheck, rfl, rfl⟩

/-- **A deletion keeps the rows that do not pass its test, in their order.** -/
theorem delete_eq_ok {test : EqualityTest} {count : Nat}
    (h : t.delete test = .ok (count, t')) :
    ∃ bound, t.bindTest test = .ok bound ∧ count = t.rows.countP (matchesAt bound) ∧
      t' = { t with rows := t.rows.filter (!matchesAt bound ·) } := by
  unfold Table.delete at h
  obtain ⟨bound, hbound, h⟩ := bind_eq_ok_iff.mp h
  cases h
  exact ⟨bound, hbound, rfl, rfl⟩

/-! ## No change touches the schema -/

theorem schema_insert {columns : List String} {values : List Value}
    (h : t.insert columns values = .ok t') : t'.schema = t.schema := by
  obtain ⟨-, row, -, -, rfl⟩ := insert_eq_ok h
  rfl

theorem schema_update {assignments : NameMap Value} {test : Option EqualityTest} {count : Nat}
    (h : t.update assignments test = .ok (count, t')) : t'.schema = t.schema := by
  obtain ⟨bound, boundTest, -, -, -, -, rfl⟩ := update_eq_ok h
  rfl

theorem schema_delete {test : EqualityTest} {count : Nat}
    (h : t.delete test = .ok (count, t')) : t'.schema = t.schema := by
  obtain ⟨bound, -, -, rfl⟩ := delete_eq_ok h
  rfl

end Table

end RelStore
