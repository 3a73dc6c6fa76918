import RelStore.Grammar.Condition

/-!
# Queries

The clauses of a query stand in a fixed order, each at most once:

```text
SELECT [DISTINCT] items FROM table joins
  [WHERE conditions] [GROUP BY columns] [HAVING conditions]
  [ORDER BY column [ASC|DESC]] [LIMIT count] [OFFSET count]
```
-/

namespace RelStore.Grammar

open RelStore.Parser

/-- Reads the name given to a column of the result, if one is given. -/
def outputName? : Parser (Option String) :=
  clause? .asWord name

/-- Reads the other name given to a table, if one is given.  Without its keyword it has to be a
word, since keywords may go on with the query. -/
def otherName? : Parser (Option String) := do
  if ← acceptKeyword .asWord then return some (← name)
  else
    match ← takeIf? fun | .word _ => true | _ => false with
    | some (.word s) => return some s
    | _ => return none

/-- Reads an item of a select list. -/
def selectItem : Parser SelectItem := do
  if ← accept (.symbol .asterisk) then return .star
  else
    let first ← name
    if ← accept (.symbol .openParen) then
      let call ← aggregateCall first
      return .aggregate call ((← outputName?).getD (call.defaultOutputName first))
    else
      let column ← qualifiedFrom first
      return .column column ((← outputName?).getD column)

/-- Reads the words of a join before its table, if a join is next. -/
def joinKind? : Parser (Option JoinKind) := do
  match ← peek? with
  | some (.keyword .join) =>
    keyword .join
    return some .inner
  | some (.keyword .inner) => outerJoin .inner false
  | some (.keyword .left) => outerJoin .left true
  | some (.keyword .right) => outerJoin .right true
  | some (.keyword .full) => outerJoin .full true
  | _ => return none
where
  /-- Reads the word for the kind, a word that may follow it, and the word for a join. -/
  outerJoin (kind : JoinKind) (allowOuter : Bool) : Parser (Option JoinKind) := do
    let _ ← next
    if allowOuter then
      let _ ← acceptKeyword .outer
    keyword .join
    return some kind

/-- Reads a join after its kind.  Its condition may name the joined table's column first. -/
def joinAfter (leftQualifier : String) (kind : JoinKind) : Parser Join := do
  let table ← name
  let rightQualifier := (← otherName?).getD table
  keyword .onWord
  let first ← columnName
  symbol .equal
  let second ← columnName
  let reversed := qualifierOf? first = some rightQualifier ∧
    qualifierOf? second ≠ some rightQualifier
  if reversed then return ⟨table, kind, second, first, leftQualifier, rightQualifier⟩
  else return ⟨table, kind, first, second, leftQualifier, rightQualifier⟩

/-- Reads the joins of a query. -/
def joins (leftQualifier : String) : Parser (List Join) :=
  loop [] fun joins => do
    match ← joinKind? with
    | none => return (joins, false)
    | some kind => return (joins ++ [← joinAfter leftQualifier kind], true)

/-- Reads a column to sort by. -/
def sortKey : Parser SortKey := do
  keyword .byWord
  let column ← columnName
  let word ← takeIf? fun token => token == .keyword .asc || token == .keyword .desc
  return ⟨column, if word = some (.keyword .desc) then .descending else .ascending⟩

/-- Reads the columns to group by. -/
def groupColumns : Parser (List String) := do
  keyword .byWord
  commaSeparated columnName

/-- Reads a query. -/
def query : Parser Query := do
  keyword .select
  let distinct ← acceptKeyword .distinct
  let items ← commaSeparated selectItem
  keyword .fromWord
  let table ← name
  let source : TableReference := ⟨table, ← otherName?⟩
  let joins ← joins source.qualifier
  let filter ← clause? .whereWord conditionGroup
  let groupBy ← clause? .group groupColumns
  let having ← clause? .having conditionGroup
  let orderBy ← clause? .order sortKey
  let limit ← clause? .limit rowCount
  let offset ← clause? .offset rowCount
  return { distinct, items, source, joins, filter, groupBy, having, orderBy, limit, offset }

end RelStore.Grammar
