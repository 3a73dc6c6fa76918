import RelStore.Catalog
import RelStore.ColumnName
import RelStore.Statement.Basic

/-!
# Relations

A `Relation` is what the stages of a query hand on: column names and rows with one value per
column.  The columns of the query's first table bear their own names, those of a joined table are
qualified.

A name finds its column in three attempts: as it is, without its qualifier, and as the unqualified
name of a single column.  Several columns of that unqualified name are as good as none.
-/

namespace RelStore

/-- Column names and rows. -/
structure Relation where
  /-- The names of the columns. -/
  columns : List String
  /-- The rows, each with a value per column. -/
  rows : List Row
deriving DecidableEq, Repr

/-- The declared types of columns, as far as they are known. -/
abbrev ColumnTypes := NameMap ColumnType

/-! ## Finding columns -/

/-- The positions of the columns that are qualified and have the name behind the qualifier. -/
def qualifiedPositions (columns : List String) (name : String) : List Nat :=
  (List.range columns.length).filter fun i => columns[i]?.bind unqualified? = some name

/-- The position of the column that a name means. -/
def position? (columns : List String) (name : String) : Option Nat :=
  match columns.idxOf? name with
  | some i => some i
  | none =>
    match (unqualified? name).bind columns.idxOf? with
    | some i => some i
    | none =>
      match qualifiedPositions columns name with
      | [i] => some i
      | _ => none

/-- The position of the column that a name means; an error if it means none. -/
def position (columns : List String) (name : String) : Except Error Nat :=
  match position? columns name with
  | some i => .ok i
  | none => .error (.columnNotFound name)

/-- The declared type of the column at a position. -/
def typeAt? (types : ColumnTypes) (columns : List String) (i : Nat) : Option ColumnType :=
  columns[i]?.bind types.get?

/-- The declared type of the column that a name means. -/
def columnType? (types : ColumnTypes) (columns : List String) (name : String) :
    Option ColumnType :=
  (position? columns name).bind (typeAt? types columns)

/-- A column found is one of the columns. -/
theorem lt_length_of_position?_eq_some {columns : List String} {name : String} {i : Nat}
    (h : position? columns name = some i) : i < columns.length := by
  have hidx {s : String} (hs : columns.idxOf? s = some i) : i < columns.length := by
    simp only [List.idxOf?, List.findIdx?_eq_some_iff_getElem] at hs
    exact hs.1
  simp only [position?] at h
  split at h
  next hi => exact hidx (h ▸ hi)
  next =>
    split at h
    next hi =>
      obtain ⟨s, -, hs⟩ := Option.bind_eq_some_iff.1 hi
      exact hidx (h ▸ hs)
    next =>
      split at h
      next j hj =>
        have hmem : j ∈ qualifiedPositions columns name := by simp [hj]
        have := (List.mem_filter.1 hmem).1
        simpa [Option.some.inj h] using this
      next => contradiction

/-! ## Relations of tables, and parts of relations -/

namespace Relation

/-- The rows of a table under the names of its columns. -/
def ofTable (t : Table) : Relation :=
  ⟨t.schema.columnNames, t.rows⟩

/-- The relation without its first `n` rows. -/
def skip (r : Relation) (n : Nat) : Relation :=
  { r with rows := r.rows.drop n }

/-- The relation of the first `n` rows. -/
def take (r : Relation) (n : Nat) : Relation :=
  { r with rows := r.rows.take n }

end Relation

end RelStore
