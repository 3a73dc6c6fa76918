import RelStore.Table
import RelStore.Text.AsciiCase

/-!
# Catalogs

A `Catalog` holds the tables by name.  A name that no table has exactly is taken for the least
name that differs from it in ASCII letter case only, and every use of a table looks it up in this
one way.
-/

namespace RelStore

/-- The tables, each under its name. -/
structure Catalog where
  /-- The tables by name. -/
  tables : NameMap Table := ∅
deriving DecidableEq

namespace Catalog

instance : EmptyCollection Catalog where
  emptyCollection := {}

instance : Inhabited Catalog := ⟨∅⟩

/-- The names of the tables, in order. -/
def tableNames (c : Catalog) : List String :=
  c.tables.names

/-- The name of the table that a name means. -/
def resolve? (c : Catalog) (name : String) : Option String :=
  if c.tables.contains name then some name
  else c.tableNames.find? (Text.equalsIgnoreCase · name)

/-- The table that a name means. -/
def find? (c : Catalog) (name : String) : Option Table :=
  (c.resolve? name).bind c.tables.get?

/-- The table that a name means; an error if there is none. -/
def find (c : Catalog) (name : String) : Except Error Table :=
  match c.find? name with
  | some table => .ok table
  | none => .error (.tableNotFound name)

/-- Adds a table without rows, unless its very name is taken. -/
def create (c : Catalog) (schema : Schema) : Except Error Catalog :=
  if c.tables.contains schema.name then .error (.tableExists schema.name)
  else .ok ⟨c.tables.insert schema.name (.empty schema)⟩

/-- Changes the table that a name means, and answers what the change does. -/
def change {α : Type} (c : Catalog) (name : String) (f : Table → Except Error (α × Table)) :
    Except Error (α × Catalog) := do
  let table ← c.find name
  let (answer, changed) ← f table
  return (answer, ⟨c.tables.insert ((c.resolve? name).getD name) changed⟩)

end Catalog

end RelStore
