import RelStore.Occurrence
import RelStore.Value.Cast

/-!
# Schemas

A table's name, its columns in order, and its primary key.  A schema is only data: a consistent
one has columns, none of them twice, and a key among them (`Schema.Consistent`), which is what
`Schema.validate` accepts.
-/

namespace RelStore

/-- A declared column. -/
structure Column where
  name : String
  type : ColumnType
deriving DecidableEq, Repr

/-- The declaration of a table. -/
structure Schema where
  name : String
  /-- The columns, in the order of a row's values. -/
  columns : List Column
  /-- The column whose values tell the rows apart, if there is one. -/
  primaryKey : Option String
deriving DecidableEq, Repr

namespace Schema

/-- The names of the columns. -/
def columnNames (s : Schema) : List String :=
  s.columns.map (·.name)

/-- The position of the first column of the name. -/
def position? (s : Schema) (name : String) : Option Nat :=
  s.columns.findIdx? (·.name == name)

/-- The type of the first column of the name. -/
def columnType? (s : Schema) (name : String) : Option ColumnType :=
  (s.columns.find? (·.name == name)).map (·.type)

/-- The position of the first column of the name; an error if there is none. -/
def position (s : Schema) (name : String) : Except Error Nat :=
  match s.position? name with
  | some i => .ok i
  | none => .error (.columnNotFound name)

/-- The position and the type of the first column of the name; an error if there is none. -/
def locate (s : Schema) (name : String) : Except Error (Nat × ColumnType) :=
  match s.position? name, s.columnType? name with
  | some i, some type => .ok (i, type)
  | _, _ => .error (.columnNotFound name)

/-- The name and position of the primary key. -/
def keyColumn? (s : Schema) : Option (String × Nat) :=
  s.primaryKey.bind fun key => (s.position? key).map fun i => (key, i)

/-- The schema has columns, each name once, and its key is one of them. -/
structure Consistent (s : Schema) : Prop where
  columns_ne_nil : s.columns ≠ []
  nodup_columnNames : s.columnNames.Nodup
  key_mem : ∀ key ∈ s.primaryKey, key ∈ s.columnNames

/-- Refuses a schema that is not consistent, naming the first fault. -/
def validate (s : Schema) : Except Error Unit :=
  if s.columns.isEmpty then .error (.invalidSchema (.noColumns s.name))
  else
    match firstRepeat? s.columnNames with
    | some column => .error (.invalidSchema (.duplicateColumn column s.name))
    | none =>
      match s.primaryKey with
      | some key =>
        if key ∈ s.columnNames then .ok ()
        else .error (.invalidSchema (.unknownPrimaryKey key s.name))
      | none => .ok ()

/-- Exactly the consistent schemas are accepted. -/
theorem validate_eq_ok_iff {s : Schema} : s.validate = .ok () ↔ s.Consistent := by
  simp only [validate]
  split
  next h =>
    have : s.columns = [] := by simpa using h
    exact ⟨nofun, fun hs => absurd this hs.columns_ne_nil⟩
  next h =>
    have hne : s.columns ≠ [] := by simpa using h
    split
    next column hrep =>
      refine ⟨nofun, fun hs => ?_⟩
      simp [firstRepeat?_eq_none_iff.2 hs.nodup_columnNames] at hrep
    next hrep =>
      have hnodup := firstRepeat?_eq_none_iff.1 hrep
      split
      next key hkey =>
        split
        next hmem => exact ⟨fun _ => ⟨hne, hnodup, by simp [hkey, hmem]⟩, fun _ => rfl⟩
        next hmem => exact ⟨nofun, fun hs => absurd (hs.key_mem key hkey) hmem⟩
      next hkey => exact ⟨fun _ => ⟨hne, hnodup, by simp [hkey]⟩, fun _ => rfl⟩

end Schema

end RelStore
