import RelStore.Catalog
import RelStore.Statement.Render

/-!
# Catalogs as statements

The statements that build a catalog anew: for each table, in the order of the names, its declaration
and then an insertion per row, oldest first.  Insertions take no truth values, so those are given as
the integers 1 and 0, which cast to them.
-/

namespace RelStore

/-- The literal that an insertion gives a stored cell by. -/
def insertedLiteral : Value → Value
  | .boolean b => .integer (if b then 1 else 0)
  | v => v

/-- The statement that declares a table, its key at the column. -/
def Schema.declaration (s : Schema) : Statement :=
  .createTable s.name
    (s.columns.map fun column => ⟨column.name, column.type, s.primaryKey = some column.name⟩) none

/-- The statement that inserts a row. -/
def Schema.insertion (s : Schema) (row : Row) : Statement :=
  .insert s.name s.columnNames (row.map insertedLiteral)

/-- The statements that build a table anew. -/
def Table.statements (t : Table) : List Statement :=
  t.schema.declaration :: t.rows.map t.schema.insertion

namespace Catalog

/-- The statements that build the catalog anew. -/
def statements (c : Catalog) : List Statement :=
  c.tables.entries.flatMap fun entry => entry.2.statements

/-- The statements that build the catalog anew, as texts. -/
def dump (c : Catalog) : List String :=
  c.statements.map fun s => Lexeme.layOut Lexeme.standsApartTight s.lexemes

end Catalog

end RelStore
