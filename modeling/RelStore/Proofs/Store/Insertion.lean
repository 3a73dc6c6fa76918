import RelStore.Proofs.Store.Rebuild
import RelStore.Proofs.Value.Comparand

/-!
# When an insertion succeeds

An insertion pairs names with values and goes through the declared columns, taking the value of each
from its pair.  If no name is given twice, all that counts is which pairs there are (`CastRow`): the
row made has in each column the cast of the value paired with the column's name, in whatever order
the pairs stand (`rowOfPairs_eq_ok_iff`).

| what can fail | does not fail just if |
| --- | --- |
| finding the names | each is the name of a declared column |
| making the row | each declared column is given a value, and the value casts |
| the key | its cast is a null, or a key that the table does not have (`KeyIsNew`) |
-/

namespace RelStore

/-- The row has, in each of the columns, the cast of a value given under the column's name. -/
def CastRow (columns : List Column) (given : List (String × Value)) (row : Row) : Prop :=
  List.Forall₂ (fun column cell => ∃ v, (column.name, v) ∈ given ∧ column.type.cast v = .ok cell)
    columns row

namespace CastRow

variable {columns : List Column} {given : List (String × Value)} {row : Row}

/-- The order of what is given does not count. -/
theorem of_perm (h : CastRow columns given row) {other : List (String × Value)}
    (hperm : given.Perm other) : CastRow columns other row := by
  refine List.Forall₂.imp ?_ h
  rintro column cell ⟨v, hv, hcast⟩
  exact ⟨v, hperm.subset hv, hcast⟩

/-- There is a row if there is a cell for each column. -/
theorem exists_of_forall (h : ∀ column ∈ columns, ∃ v, (column.name, v) ∈ given ∧
    ∃ cell, column.type.cast v = .ok cell) : ∃ row, CastRow columns given row := by
  induction columns with
  | nil => exact ⟨[], .nil⟩
  | cons column columns ih =>
      obtain ⟨⟨v, hv, cell, hcast⟩, hrest⟩ := List.forall_mem_cons.mp h
      obtain ⟨cells, hcells⟩ := ih hrest
      exact ⟨cell :: cells, .cons ⟨v, hv, hcast⟩ hcells⟩

theorem admits {s : Schema} (h : CastRow s.columns given row) : s.Admits row := by
  refine List.Forall₂.imp ?_ h
  rintro column cell ⟨v, -, hcast⟩
  exact ColumnType.holds_of_cast hcast

end CastRow

/-- A row of casts has a cell for each column, so the columns are all given. -/
theorem CastRow.perm_columnNames {s : Schema} (hs : s.Consistent) {columns : List String}
    {values : List Value} {row : Row} (h : CastRow s.columns (columns.zip values) row)
    (hnodup : columns.Nodup) (hfound : columns ⊆ s.columnNames) : columns.Perm s.columnNames := by
  refine (List.perm_ext_iff_of_nodup hnodup hs.nodup_columnNames).mpr fun name => ?_
  refine ⟨fun hname => hfound hname, fun hname => ?_⟩
  obtain ⟨column, hcolumn, rfl⟩ := List.mem_map.mp hname
  obtain ⟨i, hi⟩ := List.getElem?_of_mem hcolumn
  obtain ⟨v, hv, -⟩ := rel_cellAt h hi
  exact (List.of_mem_zip hv).1

/-- Every name is given a value if there are as many values as names. -/
theorem exists_mem_given {columns : List String} {values : List Value}
    (hlength : columns.length = values.length) {name : String} (h : name ∈ columns) :
    ∃ v, (name, v) ∈ columns.zip values := by
  rw [← List.map_fst_zip (Nat.le_of_eq hlength)] at h
  obtain ⟨⟨_, v⟩, hv, rfl⟩ := List.mem_map.mp h
  exact ⟨v, hv⟩

/-- Of values given under different names there is one for each name. -/
theorem eq_of_mem_given {given : List (String × Value)} (hgiven : (given.map (·.1)).Nodup)
    {name : String} {v w : Value} (hv : (name, v) ∈ given) (hw : (name, w) ∈ given) : v = w :=
  congrArg Prod.snd (List.inj_on_of_nodup_map hgiven hv hw rfl)

/-- A row of casts has in a column the cast of the one value given for it. -/
theorem CastRow.cellAt_eq {s : Schema} {given : List (String × Value)} {row : Row}
    (h : CastRow s.columns given row) (hgiven : (given.map (·.1)).Nodup) {name : String} {i : Nat}
    {type : ColumnType} {v w : Value} (hlocate : s.locate name = .ok (i, type))
    (hv : (name, v) ∈ given) (hcast : type.cast v = .ok w) : cellAt row i = w := by
  obtain ⟨column, hcolumn, rfl, rfl⟩ := Schema.locate_eq_ok hlocate
  obtain ⟨v', hv', hcast'⟩ := rel_cellAt h hcolumn
  rw [eq_of_mem_given hgiven hv' hv, hcast] at hcast'
  exact (Except.ok.inj hcast').symm

/-- **Of pairs with different names the row of their casts is made.** -/
theorem rowOfPairs_eq_ok_iff {columns : List Column} (hcolumns : (columns.map (·.name)).Nodup)
    {given : List (String × Value)} (hgiven : (given.map (·.1)).Nodup) {row : Row} :
    rowOfPairs columns given = .ok row ↔ CastRow columns given row := by
  constructor
  · exact forall₂_of_rowOfPairs
  · intro h
    refine rowOfPairs_eq_ok hcolumns (List.Forall₂.imp ?_ h)
    rintro column cell ⟨v, hv, hcast⟩
    exact ⟨v, lookup_eq_some_of_mem hgiven hv, hcast⟩

namespace Table

/-- The value given for the key is cast to a null or to no key of the table. -/
def KeyIsNew (t : Table) (given : List (String × Value)) : Prop :=
  ∀ key i type v w, t.schema.primaryKey = some key → t.schema.locate key = .ok (i, type) →
    (key, v) ∈ given → type.cast v = .ok w → w = .null ∨ ∀ row ∈ t.rows, cellAt row i ≠ w

variable {t t' : Table} {columns : List String} {values : List Value}

/-- The key of a row of casts is accepted exactly if the value given for it is new. -/
theorem Valid.checkNewKey_iff_keyIsNew (ht : t.Valid) {given : List (String × Value)}
    (hgiven : (given.map (·.1)).Nodup) {row : Row} (hrow : CastRow t.schema.columns given row) :
    t.checkNewKey row = .ok () ↔ t.KeyIsNew given := by
  have hmatches : ∀ {key i type}, t.schema.locate key = .ok (i, type) → ∀ old ∈ t.rows,
      (matchesAt (i, cellAt row i) old = false ↔ cellAt old i ≠ cellAt row i) := by
    intro key i type hlocate old hold
    obtain ⟨column, hcolumn, -⟩ := Schema.locate_eq_ok hlocate
    rw [← Bool.not_eq_true,
      (ht.admits old hold).matchesAt_iff hcolumn (hrow.admits.holds_cellAt hcolumn)]
  rw [Table.checkNewKey_eq_ok_iff]
  constructor
  · intro hnew key i type v w hkey hlocate hv hcast
    obtain rfl := hrow.cellAt_eq hgiven hlocate hv hcast
    have hcolumn := Schema.keyColumn?_eq_some_iff.mpr ⟨hkey, Schema.position?_of_locate hlocate⟩
    exact (hnew key i hcolumn).imp_right fun h old hold =>
      (hmatches hlocate old hold).mp (h old hold)
  · intro hnew key i hkey
    obtain ⟨hkey, hposition⟩ := Schema.keyColumn?_eq_some_iff.mp hkey
    obtain ⟨column, hcolumn, rfl, hlocate⟩ := Schema.exists_locate_of_position? hposition
    obtain ⟨v, hv, hcast⟩ := rel_cellAt hrow hcolumn
    exact (hnew column.name i column.type v _ hkey hlocate hv hcast).imp_right fun h old hold =>
      (hmatches hlocate old hold).mpr (h old hold)

/-- **An insertion of different columns succeeds exactly if they are found, there is a row of their
casts, and its key is new**; it then adds that row. -/
theorem Valid.insert_eq_ok_iff (ht : t.Valid) (hnodup : columns.Nodup)
    (hlength : columns.length = values.length) :
    t.insert columns values = .ok t' ↔ columns ⊆ t.schema.columnNames ∧
      ∃ row, CastRow t.schema.columns (columns.zip values) row ∧
        t.KeyIsNew (columns.zip values) ∧ t' = { t with rows := t.rows ++ [row] } := by
  have hgiven : ((columns.zip values).map (·.1)).Nodup := by
    rwa [List.map_fst_zip (Nat.le_of_eq hlength)]
  have hreversed : ((columns.zip values).reverse.map (·.1)).Nodup := by
    rwa [List.map_reverse, List.nodup_reverse]
  have hmade : ∀ row, rowOfPairs t.schema.columns (columns.zip values).reverse = .ok row ↔
      CastRow t.schema.columns (columns.zip values) row := fun row => by
    rw [rowOfPairs_eq_ok_iff ht.consistent.nodup_columnNames hreversed]
    exact ⟨(·.of_perm (List.reverse_perm _)), (·.of_perm (List.reverse_perm _).symm)⟩
  unfold Table.insert
  rw [if_neg (not_not.mpr hlength)]
  constructor
  · intro h
    obtain ⟨_, hfound, h⟩ := bind_eq_ok_iff.mp h
    obtain ⟨row, hrow, h⟩ := bind_eq_ok_iff.mp h
    obtain ⟨_, hkey, h⟩ := bind_eq_ok_iff.mp h
    cases h
    have hcast := (hmade row).mp hrow
    exact ⟨Schema.forM_position_eq_ok_iff.mp hfound, row, hcast,
      (ht.checkNewKey_iff_keyIsNew hgiven hcast).mp hkey, rfl⟩
  · rintro ⟨hfound, row, hcast, hnew, rfl⟩
    have hkey := (ht.checkNewKey_iff_keyIsNew hgiven hcast).mpr hnew
    simp only [Schema.forM_position_eq_ok_iff.mpr hfound, (hmade row).mpr hcast, hkey, ok_bind]
    rfl

/-- **Names and values put in another order make the same insertion.** -/
theorem Valid.insert_of_perm (ht : t.Valid) (hnodup : columns.Nodup)
    (h : t.insert columns values = .ok t') {columns' : List String} {values' : List Value}
    (hlength' : columns'.length = values'.length)
    (hperm : (columns'.zip values').Perm (columns.zip values)) :
    t.insert columns' values' = .ok t' := by
  obtain ⟨hlength, -⟩ := insert_eq_ok h
  obtain ⟨hfound, row, hrow, hnew, rfl⟩ := (ht.insert_eq_ok_iff hnodup hlength).mp h
  have hcolumns : columns'.Perm columns := by
    have hnames := hperm.map (·.1)
    rwa [List.map_fst_zip (Nat.le_of_eq hlength'),
      List.map_fst_zip (Nat.le_of_eq hlength)] at hnames
  refine (ht.insert_eq_ok_iff (hcolumns.nodup_iff.mpr hnodup) hlength').mpr ⟨?_, row, ?_, ?_, rfl⟩
  · exact List.Subset.trans hcolumns.subset hfound
  · exact hrow.of_perm hperm.symm
  · exact fun key i type v w hkey hlocate hv =>
      hnew key i type v w hkey hlocate (hperm.subset hv)

/-! ## The row found again -/

/-- **A row is found, and removed, by the literal that was inserted as its key.** -/
theorem Valid.delete_inserted (ht : t.Valid) (hnodup : columns.Nodup)
    (h : t.insert columns values = .ok t') {key : String} (hkey : t.schema.primaryKey = some key)
    {i : Nat} {type : ColumnType} (hlocate : t.schema.locate key = .ok (i, type)) {v w : Value}
    (hv : (key, v) ∈ columns.zip values) (hcast : type.cast v = .ok w) (hnotNull : w ≠ .null) :
    t'.bindTest ⟨key, v⟩ = .ok (i, w) ∧
      ∃ row, t' = { t with rows := t.rows ++ [row] } ∧ matchesAt (i, w) row = true ∧
        (∀ old ∈ t.rows, matchesAt (i, w) old = false) ∧ t'.delete ⟨key, v⟩ = .ok (1, t) := by
  obtain ⟨hlength, -⟩ := insert_eq_ok h
  have hgiven : ((columns.zip values).map (·.1)).Nodup := by
    rwa [List.map_fst_zip (Nat.le_of_eq hlength)]
  obtain ⟨-, row, hrow, hnew, rfl⟩ := (ht.insert_eq_ok_iff hnodup hlength).mp h
  have hbound : ({ t with rows := t.rows ++ [row] } : Table).bindTest ⟨key, v⟩ = .ok (i, w) := by
    unfold bindTest
    dsimp only
    rw [hlocate, ok_bind, ColumnType.castComparand_of_cast hcast]
    rfl
  obtain ⟨column, hcolumn, -, rfl⟩ := Schema.locate_eq_ok hlocate
  have hw : column.type.Holds w := ColumnType.holds_of_cast hcast
  have hfound : matchesAt (i, w) row = true :=
    (hrow.admits.matchesAt_iff hcolumn hw).mpr (hrow.cellAt_eq hgiven hlocate hv hcast)
  have hothers : ∀ old ∈ t.rows, matchesAt (i, w) old = false := by
    intro old hold
    rw [← Bool.not_eq_true, (ht.admits old hold).matchesAt_iff hcolumn hw]
    exact (hnew key i column.type v w hkey hlocate hv hcast).resolve_left hnotNull old hold
  have hcount : (t.rows ++ [row]).countP (matchesAt (i, w)) = 1 := by
    have hzero : t.rows.countP (matchesAt (i, w)) = 0 :=
      List.countP_eq_zero.mpr fun old hold => by simp [hothers old hold]
    simp [hzero, hfound]
  have hrest : (t.rows ++ [row]).filter (!matchesAt (i, w) ·) = t.rows := by
    have hkept : t.rows.filter (!matchesAt (i, w) ·) = t.rows :=
      List.filter_eq_self.mpr fun old hold => by simp [hothers old hold]
    simp [hkept, hfound]
  refine ⟨hbound, row, rfl, hfound, hothers, ?_⟩
  unfold Table.delete
  simp only [hbound, ok_bind, hcount, hrest]
  rfl

end Table

end RelStore
