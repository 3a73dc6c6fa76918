import RelStore.Proofs.NameMap
import RelStore.Proofs.Store.Valid
import RelStore.Relation.Filter

/-!
# Relations and the declared types of their columns

The types that a plan carries say of each column of a relation what its values may be.  A literal
that may itself stand in the column is then compared as it is: casting does not change it, and a
value equals it in conditions just if it is the same value.
-/

namespace RelStore

/-- A value that may stand in a column is compared with the column as it is. -/
theorem ColumnType.castComparand_of_holds {type : ColumnType} {v : Value} (h : type.Holds v) :
    type.castComparand v = .ok v := by
  cases type <;> cases v <;> first | rfl | exact h.elim

/-- The type kept by name is that of a column if columns of one name are of one type. -/
theorem typeAt?_ofList {declared : List (String × ColumnType)}
    (hagree : ∀ column ∈ declared, ∀ other ∈ declared, column.1 = other.1 → column.2 = other.2)
    {i : Nat} {column : String × ColumnType} (h : declared[i]? = some column) :
    typeAt? (.ofList declared) (declared.map (·.1)) i = some column.2 := by
  have hmem := List.mem_of_getElem? h
  unfold typeAt?
  rw [List.getElem?_map, h]
  exact NameMap.get?_ofList_of_forall hmem fun other hother heq =>
    hagree other hother column hmem heq

namespace Relation

/-- Every column has a type, and its values may stand in a column of the type. -/
def Typed (types : ColumnTypes) (r : Relation) : Prop :=
  ∀ i < r.columns.length, ∃ type, typeAt? types r.columns i = some type ∧
    ∀ row ∈ r.rows, type.Holds (cellAt row i)

variable {types : ColumnTypes} {r r' : Relation}

theorem Typed.of_subset (hr : r.Typed types) {rows : List Row} (h : rows ⊆ r.rows) :
    Typed types { r with rows } := by
  intro i hi
  obtain ⟨type, htype, hholds⟩ := hr i hi
  exact ⟨type, htype, fun row hrow => hholds row (h hrow)⟩

/-! ## Types by position and by name -/

/-- The columns bear the names declared, and the values of a row are one by one of the types
declared. -/
structure Fits (declared : List (String × ColumnType)) (r : Relation) : Prop where
  columns_eq : r.columns = declared.map (·.1)
  row : ∀ row ∈ r.rows, List.Forall₂ (fun column v => column.2.Holds v) declared row

variable {declared : List (String × ColumnType)}

theorem Fits.of_subset (h : r.Fits declared) (hcolumns : r'.columns = r.columns)
    (hrows : r'.rows ⊆ r.rows) : r'.Fits declared :=
  ⟨hcolumns.trans h.columns_eq, fun row hrow => h.row row (hrows hrow)⟩

theorem Fits.holds_cellAt (h : r.Fits declared) {i : Nat} {column : String × ColumnType}
    (hcolumn : declared[i]? = some column) : ∀ row ∈ r.rows, column.2.Holds (cellAt row i) :=
  fun row hrow => rel_cellAt (h.row row hrow) hcolumn

/-- A column has values of one kind. -/
theorem Fits.exists_holds (h : r.Fits declared) {i : Nat} (hi : i < r.columns.length) :
    ∃ type : ColumnType, ∀ row ∈ r.rows, type.Holds (cellAt row i) := by
  have hi' : i < declared.length := by simpa [h.columns_eq] using hi
  exact ⟨_, h.holds_cellAt (List.getElem?_eq_getElem hi')⟩

/-- **Types kept by name are right where columns of one name are of one type.** -/
theorem Fits.typed (h : r.Fits declared)
    (hagree : ∀ column ∈ declared, ∀ other ∈ declared, column.1 = other.1 → column.2 = other.2) :
    r.Typed (.ofList declared) := by
  intro i hi
  have hi' : i < declared.length := by simpa [h.columns_eq] using hi
  have hcolumn := List.getElem?_eq_getElem hi'
  refine ⟨declared[i].2, ?_, h.holds_cellAt hcolumn⟩
  rw [h.columns_eq]
  exact typeAt?_ofList hagree hcolumn

theorem fits_ofTable {t : Table} (ht : t.Valid) :
    (ofTable t).Fits (t.schema.columns.map fun column => (column.name, column.type)) := by
  refine ⟨?_, fun row hrow => ?_⟩
  · rw [List.map_map]
    rfl
  · rw [List.forall₂_map_left_iff]
    exact ht.admits row hrow

end Relation

/-- The columns of a table bear names of their own. -/
theorem Table.Valid.agree {t : Table} (ht : t.Valid) :
    ∀ column ∈ t.schema.columns.map fun column => (column.name, column.type),
      ∀ other ∈ t.schema.columns.map fun column => (column.name, column.type),
        column.1 = other.1 → column.2 = other.2 := by
  intro column hcolumn other hother heq
  have hnodup : ((t.schema.columns.map fun column => (column.name, column.type)).map
      (·.1)).Nodup := by
    rw [List.map_map]
    exact ht.consistent.nodup_columnNames
  rw [List.inj_on_of_nodup_map hnodup hcolumn hother heq]

/-- A table has the types that it declares. -/
theorem Relation.typed_ofTable {t : Table} (ht : t.Valid) :
    (ofTable t).Typed
      (.ofList (t.schema.columns.map fun column => (column.name, column.type))) :=
  (fits_ofTable ht).typed ht.agree

end RelStore
