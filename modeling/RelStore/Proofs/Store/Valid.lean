import Mathlib.Data.List.Nodup
import RelStore.Proofs.Store.Change

/-!
# Valid tables

A table is valid when its schema is consistent, every row fits the schema, and no
key but the null occurs twice.  A table without rows is valid as soon as its
schema is, and every change that succeeds keeps a valid table valid:

| change | rows fit because | keys differ because |
| --- | --- | --- |
| `insert` | every cell is the cast of a literal | the new key is equal to no stored one |
| `update` | so is every cell put in | no key cell is touched, or the changed rows were checked |
| `delete` | no new row | the keys left are some of the old ones |

An insertion asks conditions whether two keys are equal, an update compares their
structure.  `satisfies_equal_iff` makes the two one on rows that fit, so a new key is
refused just if it is one of the keys there are (`checkNewKey_eq`).
-/

namespace RelStore

/-- The keys of rows whose key stands at the position: their cells there, without the nulls. -/
def keysAt (i : Nat) (rows : List Row) : List Value :=
  (rows.map (cellAt · i)).filter (!·.isNull)

/-- A consistent schema, rows that fit it, and no key twice. -/
structure Table.Valid (t : Table) : Prop where
  consistent : t.schema.Consistent
  admits : ∀ row ∈ t.rows, t.schema.Admits row
  keys_nodup : ∀ name i, t.schema.keyColumn? = some (name, i) → (keysAt i t.rows).Nodup

/-! ## Keys -/

/-- Rows whose keys differ hold different values at the key's position, unless it is null. -/
theorem cellAt_ne_of_keysAt_nodup {i : Nat} {rows : List Row} (h : (keysAt i rows).Nodup)
    {m n : Nat} (hm : m < rows.length) (hn : n < rows.length) (hne : m ≠ n)
    (hkey : cellAt rows[m] i ≠ .null) : cellAt rows[m] i ≠ cellAt rows[n] i := by
  wlog hlt : m < n generalizing m n
  · intro heq
    exact this hn hm hne.symm (heq ▸ hkey) (by omega) heq.symm
  · intro heq
    unfold keysAt List.Nodup at h
    rw [List.pairwise_filter, List.pairwise_map, List.pairwise_iff_getElem] at h
    exact h m n hm hn hlt (by simpa using hkey) (by simpa [← heq] using hkey) heq

theorem mem_keysAt {i : Nat} {rows : List Row} {v : Value} :
    v ∈ keysAt i rows ↔ (∃ row ∈ rows, cellAt row i = v) ∧ v ≠ .null := by
  simp [keysAt]

theorem keysAt_append (i : Nat) (rows rows' : List Row) :
    keysAt i (rows ++ rows') = keysAt i rows ++ keysAt i rows' := by
  simp [keysAt]

theorem keysAt_singleton {i : Nat} {row : Row} :
    keysAt i [row] = if cellAt row i = .null then [] else [cellAt row i] := by
  by_cases hnull : cellAt row i = .null <;> simp [keysAt, hnull]

/-- No key occurs twice with one more row just if none does before and the row has none of them. -/
theorem nodup_keysAt_append_singleton_iff {i : Nat} {rows : List Row} {row : Row} :
    (keysAt i (rows ++ [row])).Nodup ↔
      (keysAt i rows).Nodup ∧ cellAt row i ∉ keysAt i rows := by
  rw [keysAt_append, keysAt_singleton]
  by_cases hnull : cellAt row i = .null
  · simp [hnull, mem_keysAt]
  · simp [hnull, List.nodup_append_comm, and_comm]

/-- The check of a whole table passes exactly when no key occurs twice. -/
theorem checkKeys_eq_ok_iff {name : String} {i : Nat} {rows : List Row} :
    Table.checkKeys name i rows = .ok () ↔ (keysAt i rows).Nodup := by
  unfold Table.checkKeys
  rw [← firstRepeat?_eq_none_iff, ← keysAt]
  cases firstRepeat? (keysAt i rows) <;> simp

/-- Rows that agree at the key's position have the same keys. -/
theorem keysAt_map_of_cellAt_eq {i : Nat} {f : Row → Row}
    (h : ∀ row, cellAt (f row) i = cellAt row i) (rows : List Row) :
    keysAt i (rows.map f) = keysAt i rows := by
  unfold keysAt
  rw [List.map_map]
  exact congrArg (List.filter _) (List.map_congr_left fun row _ => h row)

namespace Table

variable {t t' : Table}

theorem valid_empty {schema : Schema} (h : schema.Consistent) : (Table.empty schema).Valid where
  consistent := h
  admits := by intro row hrow; simp [Table.empty] at hrow
  keys_nodup := by intro name i _; simp [Table.empty, keysAt]

/-- A located key is the position of a column. -/
theorem exists_column_of_keyColumn? {name : String} {i : Nat}
    (h : t.schema.keyColumn? = some (name, i)) : ∃ column, t.schema.columns[i]? = some column := by
  obtain ⟨column, hcolumn, -⟩ :=
    Schema.exists_column_of_position? (Schema.keyColumn?_eq_some_iff.mp h).2
  exact ⟨column, hcolumn⟩

/-! ## Insertion -/

theorem admits_of_rowOfPairs {pairs : List (String × Value)} {row : Row}
    (h : rowOfPairs t.schema.columns pairs = .ok row) : t.schema.Admits row := by
  refine (forall₂_of_rowOfPairs h).imp fun column cell => ?_
  rintro ⟨v, -, hcast⟩
  exact ColumnType.holds_of_cast hcast

/-- A new key is refused if it is one of the keys of the table. -/
theorem checkNewKey_eq {row : Row} {key : String} {i : Nat}
    (hkey : t.schema.keyColumn? = some (key, i))
    (hrows : ∀ old ∈ t.rows, t.schema.Admits old) (hrow : t.schema.Admits row) :
    t.checkNewKey row =
      if cellAt row i ∈ keysAt i t.rows then .error (.duplicateKey key (cellAt row i))
      else .ok () := by
  obtain ⟨column, hcolumn⟩ := exists_column_of_keyColumn? hkey
  have hmatches : ∀ old ∈ t.rows,
      (matchesAt (i, cellAt row i) old = true ↔ cellAt old i = cellAt row i) := fun old hold =>
    (hrows old hold).matchesAt_iff hcolumn (hrow.holds_cellAt hcolumn)
  have hiff : (!(cellAt row i).isNull && t.rows.any (matchesAt (i, cellAt row i))) = true ↔
      cellAt row i ∈ keysAt i t.rows := by
    rw [mem_keysAt, Bool.and_eq_true, List.any_eq_true, and_comm]
    refine and_congr (exists_congr fun old => ?_) (by simp)
    exact and_congr_right fun hold => hmatches old hold
  unfold checkNewKey
  rw [hkey]
  simp only [hiff]

/-- **A key is accepted as new exactly when the table stays valid with the row added.** -/
theorem Valid.checkNewKey_eq_ok_iff (ht : t.Valid) {row : Row} (hrow : t.schema.Admits row) :
    t.checkNewKey row = .ok () ↔ ({ t with rows := t.rows ++ [row] } : Table).Valid := by
  have hadmits : ∀ old ∈ t.rows ++ [row], t.schema.Admits old := by
    simpa [or_imp, forall_and] using ⟨ht.admits, hrow⟩
  cases hkey : t.schema.keyColumn? with
  | none =>
      have haccepted : t.checkNewKey row = .ok () := by
        unfold checkNewKey
        rw [hkey]
      refine iff_of_true haccepted ⟨ht.consistent, hadmits, fun name i hcolumn => ?_⟩
      cases hkey.symm.trans hcolumn
  | some column =>
      obtain ⟨key, i⟩ := column
      have hvalid : ({ t with rows := t.rows ++ [row] } : Table).Valid ↔
          cellAt row i ∉ keysAt i t.rows := by
        constructor
        · exact fun h => (nodup_keysAt_append_singleton_iff.mp (h.keys_nodup key i hkey)).2
        · refine fun hnew => ⟨ht.consistent, hadmits, fun name j hcolumn => ?_⟩
          cases hkey.symm.trans hcolumn
          exact nodup_keysAt_append_singleton_iff.mpr ⟨ht.keys_nodup key i hkey, hnew⟩
      rw [checkNewKey_eq hkey ht.admits hrow, hvalid]
      split
      next hmem => simp [hmem]
      next hnew => simp [hnew]

theorem Valid.insert (ht : t.Valid) {columns : List String} {values : List Value}
    (h : t.insert columns values = .ok t') : t'.Valid := by
  obtain ⟨-, row, hrow, hkey, rfl⟩ := insert_eq_ok h
  exact (ht.checkNewKey_eq_ok_iff (admits_of_rowOfPairs hrow)).mp hkey

/-! ## Update -/

theorem fitsColumns_of_bindAssignments {assignments : NameMap Value} {bound : List (Nat × Value)}
    (h : t.bindAssignments assignments = .ok bound) : FitsColumns t.schema bound := by
  intro assignment hmem
  obtain ⟨entry, -, column, hcolumn, -, hcast⟩ :=
    exists_mem_of_forall₂ (forall₂_of_bindAssignments h) hmem
  exact ⟨column, hcolumn, ColumnType.holds_of_cast hcast⟩

theorem Valid.update (ht : t.Valid) {assignments : NameMap Value} {test : Option EqualityTest}
    {count : Nat} (h : t.update assignments test = .ok (count, t')) : t'.Valid := by
  obtain ⟨bound, boundTest, hbound, -, hcheck, -, rfl⟩ := update_eq_ok h
  have hfits := fitsColumns_of_bindAssignments hbound
  refine ⟨ht.consistent, ?_, ?_⟩
  · -- a row is either assigned fitting cells or left alone
    intro row hrow
    obtain ⟨old, hold, rfl⟩ := List.mem_map.mp hrow
    show t.schema.Admits (if _ then _ else _)
    split
    · exact (ht.admits old hold).assignCells hfits
    · exact ht.admits old hold
  · intro name i hkey
    -- keys that are assigned were checked, and the others did not change
    by_cases hassigned : bound.any (·.1 == i) = true
    · exact checkKeys_eq_ok_iff.mp (hcheck name i hkey hassigned)
    · have huntouched : ∀ assignment ∈ bound, assignment.1 ≠ i := by
        intro assignment hmem heq
        exact hassigned (List.any_eq_true.mpr ⟨assignment, hmem, by simp [heq]⟩)
      show (keysAt i (updatedRows bound boundTest t.rows)).Nodup
      unfold updatedRows
      rw [keysAt_map_of_cellAt_eq]
      · exact ht.keys_nodup name i hkey
      · intro row
        split
        · exact cellAt_assignCells_of_notMem huntouched row
        · rfl

/-! ## Deletion -/

/-- Some of the rows of a valid table, in their order, make a valid table. -/
theorem Valid.of_sublist (ht : t.Valid) {rows : List Row} (h : rows.Sublist t.rows) :
    ({ t with rows } : Table).Valid where
  consistent := ht.consistent
  admits := fun row hrow => ht.admits row (h.subset hrow)
  keys_nodup := fun name i hkey => (ht.keys_nodup name i hkey).sublist ((h.map _).filter _)

theorem Valid.delete (ht : t.Valid) {test : EqualityTest} {count : Nat}
    (h : t.delete test = .ok (count, t')) : t'.Valid := by
  obtain ⟨bound, -, -, rfl⟩ := delete_eq_ok h
  exact ht.of_sublist List.filter_sublist

end Table

end RelStore
