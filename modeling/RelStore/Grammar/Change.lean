import RelStore.Grammar.Condition

/-!
# Declarations and changes

The statements that declare a table and that change its rows.  An insertion is told about uneven
lists only after both are read.
-/

namespace RelStore.Grammar

open RelStore.Parser

/-! ## Declarations -/

/-- Reads the type of a column. -/
def columnType : Parser ColumnType := do
  match ← next with
  | .keyword .int => return .integer
  | .keyword .integer => return .integer
  | .keyword .bool => return .boolean
  | .keyword .boolean => return .boolean
  | .keyword .string => return .text
  | .keyword .text => return .text
  | .keyword .varchar => return .text
  | token => malformed (.unexpectedToken token)

/-- Reads the declaration of a column. -/
def columnDefinition : Parser ColumnDefinition := do
  let name ← name
  let type ← columnType
  if ← acceptKeyword .primary then
    keyword .key
    return ⟨name, type, true⟩
  else return ⟨name, type, false⟩

/-- Reads what follows the first word of a key constraint. -/
def keyConstraint : Parser String := do
  keyword .key
  symbol .openParen
  let column ← name
  symbol .closeParen
  return column

/-- Reads the columns and key constraints of a table, of which one may be of the latter kind. -/
def tableElements : Parser (List ColumnDefinition × Option String) :=
  loop ([], none) fun (columns, key) => do
    if ← acceptKeyword .primary then
      let column ← keyConstraint
      if key.isSome then malformed .repeatedKeyConstraint
      return ((columns, some column), ← accept (.symbol .comma))
    else
      let column ← columnDefinition
      return ((columns ++ [column], key), ← accept (.symbol .comma))

/-- Reads the declaration of a table. -/
def createTable : Parser Statement := do
  keyword .create
  match ← next with
  | .keyword .table =>
    let name ← name
    symbol .openParen
    let (columns, key) ← tableElements
    symbol .closeParen
    return .createTable name columns key
  | token => malformed (.unexpectedToken token)

/-! ## Changes -/

/-- Reads items up to a closing parenthesis, each adding to what was read so far. -/
def untilClosed {α : Type} (item : List α → Parser α) : Parser (List α) :=
  loop [] fun items => do
    let a ← item items
    match ← next with
    | .symbol .closeParen => return (items ++ [a], false)
    | .symbol .comma => return (items ++ [a], true)
    | token => malformed (.unexpectedToken token)

/-- Reads an insertion. -/
def insert : Parser Statement := do
  keyword .insert
  keyword .into
  let table ← name
  symbol .openParen
  let columns ← untilClosed fun columns => do
    let column ← name
    if column ∈ columns then malformed (.repeatedInsertColumn column)
    return column
  keyword .values
  symbol .openParen
  let values ← untilClosed fun _ => literal false
  if columns.length ≠ values.length then
    malformed (.unevenInsert columns.length values.length)
  return .insert table columns values

/-- Reads the assignments of an update, each column at most once. -/
def assignments : Parser (NameMap Value) :=
  loop ∅ fun assignments => do
    let column ← name
    symbol .equal
    let value ← literal true
    if assignments.contains column then malformed (.repeatedUpdateColumn column)
    return (assignments.insert column value, ← accept (.symbol .comma))

/-- Reads an update. -/
def update : Parser Statement := do
  keyword .update
  let table ← name
  keyword .set
  let assignments ← assignments
  return .update table assignments (← clause? .whereWord equalityTest)

/-- Reads a deletion.  That it has a test is asked for later. -/
def delete : Parser Statement := do
  keyword .delete
  keyword .fromWord
  let table ← name
  return .delete table (← clause? .whereWord equalityTest)

end RelStore.Grammar
