import RelStore.Grammar.Change
import RelStore.Grammar.Query

/-!
# Statements from text

The first token tells the kind of statement, one semicolon may close it, and nothing may follow.
`Statement.parse` reads a whole text: what it answers depends on the tokens of the text alone.
-/

namespace RelStore

namespace Grammar

open RelStore.Parser

/-- Reads a statement of the kind its first token tells. -/
def anyStatement : Parser Statement := do
  match ← peek? with
  | some (.keyword .create) => createTable
  | some (.keyword .select) => return .select (← query)
  | some (.keyword .insert) => insert
  | some (.keyword .update) => update
  | some (.keyword .delete) => delete
  | first => fail (.unsupportedStatement first)

/-- Reads a statement and a semicolon that may close it, after which nothing is left. -/
def statement : Parser Statement := do
  let s ← anyStatement
  let _ ← accept (.symbol .semicolon)
  match ← peek? with
  | some token => malformed (.unexpectedToken token)
  | none => return s

end Grammar

namespace Statement

/-- The statement that a stream of tokens is. -/
def ofTokens (s : TokenStream) : Except Error Statement :=
  (Grammar.statement.run s.fault s.tokens).map (·.1)

/-- The statement that a text is. -/
def parse (s : String) : Except Error Statement :=
  ofTokens (.ofText s)

end Statement

end RelStore
