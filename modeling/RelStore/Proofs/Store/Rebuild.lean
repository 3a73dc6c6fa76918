import RelStore.Catalog.Dump
import RelStore.Proofs.NameMap
import RelStore.Proofs.Store.Valid

/-!
# Rows built again

Inserting under the names of the columns what is cast to the cells of a row appends that row, if its
key is new (`Table.insert_map`).  The names of the columns differ, so each value is found under its
column.  The cells themselves are cast to the cells, and so are their literals; the key of a stored
row is new because the table with the row is a valid one.
-/

namespace RelStore

/-- A value that a column may hold is cast to itself. -/
theorem ColumnType.cast_of_holds {type : ColumnType} {v : Value} (h : type.Holds v) :
    type.cast v = .ok v := by
  cases type <;> cases v <;> first | rfl | exact h.elim

/-- A stored cell is what its literal is cast to. -/
theorem ColumnType.cast_insertedLiteral {type : ColumnType} {v : Value} (h : type.Holds v) :
    type.cast (insertedLiteral v) = .ok v := by
  cases type <;> cases v <;> first | rfl | exact h.elim | skip
  next b => cases b <;> rfl

/-! ## Rows of pairs -/

theorem lookup_filter_of_ne {name other : String} (h : other ≠ name)
    (pairs : List (String × Value)) :
    (pairs.filter fun pair => pair.1 ≠ name).lookup other = pairs.lookup other := by
  induction pairs with
  | nil => rfl
  | cons pair pairs ih =>
      by_cases hpair : pair.1 = name
      · have hdiffer : (other == pair.1) = false := by simp [hpair, h]
        rw [List.filter_cons_of_neg (by simpa using hpair), ih, List.lookup_cons, hdiffer]
      · rw [List.filter_cons_of_pos (by simpa using hpair), List.lookup_cons, List.lookup_cons, ih]

/-- A row is made of pairs if every cell is cast from the value paired with the name of its column,
which no other column has. -/
theorem rowOfPairs_eq_ok {columns : List Column} {pairs : List (String × Value)} {row : Row}
    (hnodup : (columns.map (·.name)).Nodup)
    (h : List.Forall₂ (fun column cell => ∃ v, pairs.lookup column.name = some v ∧
      column.type.cast v = .ok cell) columns row) :
    rowOfPairs columns pairs = .ok row := by
  induction columns generalizing pairs row with
  | nil =>
      cases h
      rfl
  | cons column columns ih =>
      obtain ⟨cell, cells, ⟨v, hlookup, hcast⟩, hcells, rfl⟩ := List.forall₂_cons_left_iff.mp h
      obtain ⟨hnew, hnodup⟩ := List.nodup_cons.mp hnodup
      have hothers : ∀ other ∈ columns, other.name ≠ column.name := by
        intro other hother heq
        exact hnew (List.mem_map.mpr ⟨other, hother, heq⟩)
      -- the pair of this column is no pair of another one
      have hrest : rowOfPairs columns (pairs.filter fun pair => pair.1 ≠ column.name) =
          .ok cells := by
        refine ih hnodup (((List.forall₂_and_left _ _).mpr ⟨hothers, hcells⟩).imp ?_)
        rintro other cell' ⟨hne, v', hlookup', hcast'⟩
        exact ⟨v', by rw [lookup_filter_of_ne hne, hlookup'], hcast'⟩
      simp only [rowOfPairs, hlookup, hcast, hrest]
      rfl

namespace Table

section Literals

variable {literal : Value → Value}
  (hliteral : ∀ {type : ColumnType} {v : Value}, type.Holds v → type.cast (literal v) = .ok v)

include hliteral

/-- What is cast to the cells of a row that fits makes the row. -/
theorem rowOfPairs_map {s : Schema} (hnodup : s.columnNames.Nodup) {row : Row}
    (hrow : s.Admits row) :
    rowOfPairs s.columns (s.columnNames.zip (row.map literal)).reverse = .ok row := by
  have hzip : s.columnNames.zip (row.map literal) =
      (s.columns.zip row).map (Prod.map Column.name literal) := List.zip_map ..
  have hnames : ((s.columnNames.zip (row.map literal)).reverse.map (·.1)).Nodup := by
    rw [List.map_reverse, List.nodup_reverse, List.map_fst_zip]
    · exact hnodup
    · simp [Schema.columnNames, hrow.length_eq]
  refine rowOfPairs_eq_ok hnodup (List.forall₂_iff_zip.mpr ⟨hrow.length_eq.symm, ?_⟩)
  intro column cell hpair
  have hholds : column.type.Holds cell := (List.forall₂_iff_zip.mp hrow).2 hpair
  refine ⟨literal cell, lookup_eq_some_of_mem hnames ?_, hliteral hholds⟩
  rw [List.mem_reverse, hzip]
  exact List.mem_map_of_mem hpair

/-- **Inserting what is cast to the cells of a row appends the row**, if its key is new. -/
theorem insert_map {t : Table} (hnodup : t.schema.columnNames.Nodup) {row : Row}
    (hrow : t.schema.Admits row) :
    t.insert t.schema.columnNames (row.map literal) =
      (t.checkNewKey row).map fun _ => { t with rows := t.rows ++ [row] } := by
  have hlength : t.schema.columnNames.length = (row.map literal).length := by
    simp [Schema.columnNames, hrow.length_eq]
  have hfound := Schema.forM_position_eq_ok_iff.mpr (List.Subset.refl t.schema.columnNames)
  unfold insert
  rw [if_neg (by simpa using hlength)]
  simp only [hfound, rowOfPairs_map hliteral hnodup hrow, ok_bind]
  cases t.checkNewKey row <;> rfl

end Literals

/-- **Inserting the literals of a row appends the row**, if the table is valid with it. -/
theorem insert_insertedLiteral {s : Schema} {rows : List Row} {row : Row}
    (h : (⟨s, rows ++ [row]⟩ : Table).Valid) :
    (⟨s, rows⟩ : Table).insert s.columnNames (row.map insertedLiteral) =
      .ok ⟨s, rows ++ [row]⟩ := by
  have hbefore : (⟨s, rows⟩ : Table).Valid := h.of_sublist (List.sublist_append_left rows [row])
  have hrow : s.Admits row := h.admits row (by simp)
  have hkey := (hbefore.checkNewKey_eq_ok_iff hrow).mpr h
  have hinsert := insert_map (t := ⟨s, rows⟩) ColumnType.cast_insertedLiteral
    h.consistent.nodup_columnNames hrow
  rw [hkey] at hinsert
  exact hinsert

end Table

end RelStore
