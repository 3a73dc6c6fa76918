import Mathlib.Data.List.Forall2
import RelStore.Proofs.Result
import RelStore.Table

/-!
# Rows that fit a schema

A row fits when it has one value per column and each may stand in its column.
On such values the two notions of equality of the store are one: what conditions
call equal is structurally equal (`satisfies_equal_iff`).

A position found by name is the position of a column of that name, with its type
(`locate_eq_ok`).  This is the only place where the two searches behind
`Schema.locate` are unfolded.
-/

namespace RelStore

/-! ## Equality of stored values -/

/-- Values that one column may hold are equal in conditions exactly when they are
the same value, nulls included. -/
theorem satisfies_equal_iff {type : ColumnType} {v w : Value} (hv : type.Holds v)
    (hw : type.Holds w) : v.satisfies .equal w = true ↔ v = w := by
  cases type <;> cases v <;> cases w <;>
    simp_all [ColumnType.Holds, Value.satisfies, Value.compare?, Comparison.holds, Int64.toInt_inj]

/-! ## Cells of a row -/

/-- What holds of the cells of a row and of what they stand for, one by one, holds at each
position. -/
theorem rel_cellAt {α : Type} {R : α → Value → Prop} {l : List α} {row : Row}
    (h : List.Forall₂ R l row) {i : Nat} {a : α} (ha : l[i]? = some a) : R a (cellAt row i) := by
  obtain ⟨hlength, hget⟩ := List.forall₂_iff_get.mp h
  obtain ⟨hi, rfl⟩ := List.getElem?_eq_some_iff.mp ha
  have hi' : i < row.length := hlength ▸ hi
  have hcell : cellAt row i = row[i] := by simp [cellAt, List.getElem?_eq_getElem hi']
  rw [hcell]
  exact hget i hi hi'

/-! ## Columns found by name -/

namespace Schema

variable {s : Schema}

/-- The position found is that of a column of the name. -/
theorem exists_column_of_position? {name : String} {i : Nat} (h : s.position? name = some i) :
    ∃ column, s.columns[i]? = some column ∧ column.name = name := by
  unfold position? at h
  obtain ⟨hlt, hname, -⟩ := List.findIdx?_eq_some_iff_getElem.mp h
  exact ⟨s.columns[i], List.getElem?_eq_getElem hlt, by simpa using hname⟩

/-- A column with a position is located there, with its type. -/
theorem exists_locate_of_position? {name : String} {i : Nat} (h : s.position? name = some i) :
    ∃ column, s.columns[i]? = some column ∧ column.name = name ∧
      s.locate name = .ok (i, column.type) := by
  obtain ⟨hlt, hname, hfirst⟩ := List.findIdx?_eq_some_iff_getElem.mp h
  -- the search for the type stops at the column that the search for the position found
  have hfind : s.columns.find? (·.name == name) = some s.columns[i] := by
    rw [List.find?_eq_some_iff_getElem]
    exact ⟨hname, i, hlt, rfl, fun j hj => by simpa using hfirst j hj⟩
  refine ⟨s.columns[i], List.getElem?_eq_getElem hlt, by simpa using hname, ?_⟩
  unfold locate columnType?
  rw [h, hfind]
  rfl

theorem position?_of_locate {name : String} {i : Nat} {type : ColumnType}
    (h : s.locate name = .ok (i, type)) : s.position? name = some i := by
  unfold locate at h
  split at h
  next hposition _ =>
    cases h
    exact hposition
  next => contradiction

/-- A column located by name stands at the position, under the name and with the type. -/
theorem locate_eq_ok {name : String} {i : Nat} {type : ColumnType}
    (h : s.locate name = .ok (i, type)) :
    ∃ column, s.columns[i]? = some column ∧ column.name = name ∧ column.type = type := by
  obtain ⟨column, hcolumn, hname, hlocate⟩ := exists_locate_of_position? (position?_of_locate h)
  cases hlocate.symm.trans h
  exact ⟨column, hcolumn, hname, rfl⟩

/-- No two names are located at one position. -/
theorem eq_of_locate {name other : String} {i : Nat} {type type' : ColumnType}
    (h : s.locate name = .ok (i, type)) (h' : s.locate other = .ok (i, type')) : name = other := by
  obtain ⟨column, hcolumn, rfl, -⟩ := locate_eq_ok h
  obtain ⟨column', hcolumn', rfl, -⟩ := locate_eq_ok h'
  rw [Option.some.inj (hcolumn.symm.trans hcolumn')]

/-- A name among those of the columns has a position. -/
theorem exists_position?_of_mem {name : String} (h : name ∈ s.columnNames) :
    ∃ i, s.position? name = some i := by
  obtain ⟨column, hcolumn, hname⟩ := List.mem_map.mp h
  unfold position?
  rw [← Option.isSome_iff_exists, List.findIdx?_isSome, List.any_eq_true]
  exact ⟨column, hcolumn, by simp [hname]⟩

/-- All names are found exactly if each is the name of a column. -/
theorem forM_position_eq_ok_iff {names : List String} :
    (names.forM fun name => discard (s.position name)) = .ok () ↔ names ⊆ s.columnNames := by
  rw [forM_eq_ok_iff]
  refine forall₂_congr fun name _ => ?_
  constructor
  · intro h
    obtain ⟨i, hi, -⟩ := map_eq_ok_iff.mp h
    unfold position at hi
    split at hi
    next hposition =>
      obtain ⟨column, hcolumn, rfl⟩ := exists_column_of_position? hposition
      exact List.mem_map_of_mem (List.mem_of_getElem? hcolumn)
    next => contradiction
  · intro h
    obtain ⟨i, hi⟩ := exists_position?_of_mem h
    unfold position
    rw [hi]
    rfl

theorem keyColumn?_eq_some_iff {name : String} {i : Nat} :
    s.keyColumn? = some (name, i) ↔ s.primaryKey = some name ∧ s.position? name = some i := by
  unfold keyColumn?
  simp only [Option.bind_eq_some_iff, Option.map_eq_some_iff, Prod.mk.injEq]
  constructor
  · rintro ⟨key, hkey, j, hj, rfl, rfl⟩
    exact ⟨hkey, hj⟩
  · rintro ⟨hkey, hposition⟩
    exact ⟨name, hkey, i, hposition, rfl, rfl⟩

/-! ## Rows of a schema -/

/-- The row has one value per column, and each may stand in its column. -/
def Admits (s : Schema) (row : Row) : Prop :=
  List.Forall₂ (fun column v => column.type.Holds v) s.columns row

theorem Admits.length_eq {row : Row} (h : s.Admits row) : row.length = s.columns.length :=
  (List.Forall₂.length_eq h).symm

/-- The cell at a column's position may stand in the column. -/
theorem Admits.holds_cellAt {row : Row} (h : s.Admits row) {i : Nat} {column : Column}
    (hcolumn : s.columns[i]? = some column) : column.type.Holds (cellAt row i) :=
  rel_cellAt h hcolumn

/-- A row that fits passes a test for a value that the column may hold just if it has the value. -/
theorem Admits.matchesAt_iff {row : Row} (h : s.Admits row) {i : Nat} {column : Column} {w : Value}
    (hcolumn : s.columns[i]? = some column) (hw : column.type.Holds w) :
    matchesAt (i, w) row = true ↔ cellAt row i = w :=
  satisfies_equal_iff (h.holds_cellAt hcolumn) hw

/-- A value that its column may hold can be put into a row that fits. -/
theorem Admits.set {row : Row} (h : s.Admits row) {i : Nat} {column : Column} {v : Value}
    (hcolumn : s.columns[i]? = some column) (hv : column.type.Holds v) :
    s.Admits (row.set i v) := by
  unfold Admits at h ⊢
  rw [List.forall₂_iff_get] at h ⊢
  refine ⟨by simpa using h.1, fun j hj hj' => ?_⟩
  simp only [List.get_eq_getElem, List.getElem_set]
  split
  next heq =>
    subst heq
    rw [List.getElem?_eq_getElem hj] at hcolumn
    cases hcolumn
    exact hv
  next => exact h.2 j hj (by simpa using hj')

end Schema

/-- Every value put into the row is one that the column at its position may hold. -/
def FitsColumns (s : Schema) (bound : List (Nat × Value)) : Prop :=
  ∀ assignment ∈ bound, ∃ column, s.columns[assignment.1]? = some column ∧
    column.type.Holds assignment.2

theorem Schema.Admits.assignCells {s : Schema} {bound : List (Nat × Value)}
    (hbound : FitsColumns s bound) {row : Row} (h : s.Admits row) :
    s.Admits (assignCells bound row) := by
  unfold RelStore.assignCells
  induction bound generalizing row with
  | nil => exact h
  | cons assignment bound ih =>
      obtain ⟨column, hcolumn, hv⟩ := hbound assignment List.mem_cons_self
      exact ih (fun other hother => hbound other (List.mem_cons_of_mem _ hother))
        (h.set hcolumn hv)

/-- A position that is not assigned keeps its cell. -/
theorem cellAt_assignCells_of_notMem {bound : List (Nat × Value)} {i : Nat}
    (h : ∀ assignment ∈ bound, assignment.1 ≠ i) (row : Row) :
    cellAt (assignCells bound row) i = cellAt row i := by
  unfold assignCells
  induction bound generalizing row with
  | nil => rfl
  | cons assignment bound ih =>
      rw [List.foldl_cons, ih fun other hother => h other (List.mem_cons_of_mem _ hother)]
      have hne : assignment.1 ≠ i := h assignment List.mem_cons_self
      simp [cellAt, List.getElem?_set_ne hne]

/-- A position that is assigned one value only has it afterwards. -/
theorem cellAt_assignCells_of_mem {bound : List (Nat × Value)} {i : Nat} {w : Value}
    (h : (i, w) ∈ bound) (hunique : ∀ assignment ∈ bound, assignment.1 = i → assignment.2 = w)
    {row : Row} (hi : i < row.length) : cellAt (assignCells bound row) i = w := by
  induction bound generalizing row with
  | nil => simp at h
  | cons assignment bound ih =>
      obtain ⟨-, hrest⟩ := List.forall_mem_cons.mp hunique
      by_cases hmem : (i, w) ∈ bound
      · exact ih hmem hrest (by simpa using hi)
      · -- the head is the last assignment of the position
        obtain rfl := (List.mem_cons.mp h).resolve_right hmem
        have hothers : ∀ other ∈ bound, other.1 ≠ i := by
          rintro ⟨j, v⟩ hother rfl
          obtain rfl : v = w := hrest _ hother rfl
          exact hmem hother
        show cellAt (assignCells bound (row.set i w)) i = w
        rw [cellAt_assignCells_of_notMem hothers]
        simp [cellAt, hi]

end RelStore
