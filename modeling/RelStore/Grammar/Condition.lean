import RelStore.Grammar.Basic

/-!
# Conditions

A condition compares a column or an aggregate with a literal.  A group of conditions has one
connective throughout; the test of an update or a deletion is a single equality on a column.
-/

namespace RelStore.Grammar

open RelStore.Parser

/-- Reads the argument of an aggregate whose name and opening parenthesis have been read. -/
def aggregateCall (functionName : String) : Parser Aggregate := do
  match AggregateFunction.ofName? functionName with
  | none => malformed (.unknownFunction functionName)
  | some function =>
    if ← accept (.symbol .asterisk) then
      if function ≠ .count then malformed (.starArgument function)
      symbol .closeParen
      return ⟨function, none⟩
    else
      let column ← columnName
      symbol .closeParen
      return ⟨function, some column⟩

/-- Reads the left side of a condition. -/
def operand : Parser Operand := do
  let first ← name
  if ← accept (.symbol .openParen) then return .aggregate (← aggregateCall first)
  else return .column (← qualifiedFrom first)

/-- Reads a comparison sign. -/
def comparison : Parser Comparison := do
  match ← next with
  | .symbol .equal => return .equal
  | .symbol .greater => return .greater
  | .symbol .less => return .less
  | .symbol .greaterOrEqual => return .greaterOrEqual
  | .symbol .lessOrEqual => return .lessOrEqual
  | token => malformed (.expectedComparison token)

/-- Reads a condition. -/
def condition : Parser Condition := do
  let operand ← operand
  let comparison ← comparison
  return ⟨operand, comparison, ← literal true⟩

/-- Reads a connective if one is next. -/
def connective? : Parser (Option Connective) := do
  let token ← takeIf? fun token => token == .keyword .and || token == .keyword .or
  return token.map fun token => if token = .keyword .or then .or else .and

/-- Reads conditions under one connective.  A single condition counts as joined by AND. -/
def conditionGroup : Parser ConditionGroup := do
  let first ← condition
  let (conditions, connective) ← loop ([first], none) fun (conditions, connective) => do
    match ← connective? with
    | none => return ((conditions, connective), false)
    | some next =>
      if connective.any (· ≠ next) then malformed .mixedConnectives
      return ((conditions ++ [← condition], some next), true)
  return ⟨connective.getD .and, conditions⟩

/-- Reads the test of an update or a deletion: a column, the equality sign and a literal. -/
def equalityTest : Parser EqualityTest := do
  let column ← name
  symbol .equal
  return ⟨column, ← literal true⟩

end RelStore.Grammar
