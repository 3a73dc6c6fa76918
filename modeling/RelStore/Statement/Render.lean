import RelStore.Statement.Basic
import RelStore.Token.Lexeme

/-!
# Statements as text

The canonical spelling of a statement, which reads back as that statement.  The clauses stand in
their fixed order; the other name of a table is given with its keyword, the name of a selected
column only where it is not the one it has anyway, a direction of sorting always, and a key
constraint after the columns.

An aggregate whose output name is the call as it was written is spelled by that name.  A truth
value is spelled by its keyword, which an insertion does not take, and a double by its digits, which
only a finite one has.
-/

namespace RelStore

/-- Phrases with a separator between any two. -/
def separatedBy (separator : Lexeme) (phrases : List (List Lexeme)) : List Lexeme :=
  [separator].intercalate phrases

/-- The phrase if there is one. -/
def optionalLexemes {α : Type} (phrase : α → List Lexeme) (a? : Option α) : List Lexeme :=
  (a?.map phrase).getD []

/-- Phrases between parentheses, commas between them. -/
def parenthesized (phrases : List (List Lexeme)) : List Lexeme :=
  .symbol .openParen :: separatedBy (.symbol .comma) phrases ++ [.symbol .closeParen]

/-- A column, qualified or not. -/
def columnLexemes (column : String) : List Lexeme :=
  match splitQualified? column with
  | some (qualifier, column) => [.name qualifier, .symbol .period, .name column]
  | none => [.name column]

/-- The number that decimal text denotes, with a point whether the text has one or not. -/
def pointedNumber (text : List Char) : Lexeme :=
  .number (String.ofList (text.takeWhile (· ≠ '.')))
    (some (String.ofList ((text.dropWhile (· ≠ '.')).drop 1)))

/-- A literal. -/
def literalLexemes : Value → List Lexeme
  | .null => [.lowerKeyword .null]
  | .boolean true => [.lowerKeyword .true]
  | .boolean false => [.lowerKeyword .false]
  | .integer i =>
    let number : Lexeme := .number i.toInt.natAbs.repr none
    if i.toInt < 0 then [.symbol .minus, number] else [number]
  | .float x =>
    match x.toText.toList with
    | '-' :: text => [.symbol .minus, pointedNumber text]
    | text => [pointedNumber text]
  | .text s => [.text s]

/-- A call, its function under the given name. -/
def callLexemes (functionName : String) (call : Aggregate) : List Lexeme :=
  .name functionName ::
    parenthesized [(call.column.map columnLexemes).getD [.symbol .asterisk]]

/-- A name given to something. -/
def asLexemes (name : String) : List Lexeme :=
  [.keyword .asWord, .name name]

/-- An item of a select list. -/
def SelectItem.lexemes : SelectItem → List Lexeme
  | star => [.symbol .asterisk]
  | column name outputName =>
    columnLexemes name ++ if outputName = name then [] else asLexemes outputName
  | aggregate call outputName =>
    let functionName := String.ofList (outputName.toList.takeWhile (· ≠ '('))
    if outputName = call.defaultOutputName functionName then callLexemes functionName call
    else callLexemes call.function.name call ++ asLexemes outputName

/-- The sign of a comparison. -/
def Comparison.symbol : Comparison → Symbol
  | equal => .equal
  | greater => .greater
  | less => .less
  | greaterOrEqual => .greaterOrEqual
  | lessOrEqual => .lessOrEqual

/-- The left side of a condition. -/
def Operand.lexemes : Operand → List Lexeme
  | column name => columnLexemes name
  | aggregate call => callLexemes call.function.name call

/-- A condition. -/
def Condition.lexemes (c : Condition) : List Lexeme :=
  c.operand.lexemes ++ .symbol c.comparison.symbol :: literalLexemes c.literal

/-- The word for a connective. -/
def Connective.keyword : Connective → Keyword
  | and => .and
  | or => .or

/-- A group of conditions. -/
def ConditionGroup.lexemes (group : ConditionGroup) : List Lexeme :=
  separatedBy (.keyword group.connective.keyword) (group.conditions.map Condition.lexemes)

/-- The words of a join before its table. -/
def JoinKind.lexemes : JoinKind → List Lexeme
  | inner => [.keyword .join]
  | left => [.keyword .left, .keyword .join]
  | right => [.keyword .right, .keyword .join]
  | full => [.keyword .full, .keyword .join]

/-- A join, the sides of its condition in the given order. -/
def Join.lexemes (j : Join) : List Lexeme :=
  j.kind.lexemes ++ .name j.table ::
    (if j.rightQualifier = j.table then [] else asLexemes j.rightQualifier) ++
    .keyword .onWord :: columnLexemes j.left ++ .symbol .equal :: columnLexemes j.right

/-- A column to sort by. -/
def SortKey.lexemes (key : SortKey) : List Lexeme :=
  columnLexemes key.column ++
    [.keyword (match key.direction with | .ascending => .asc | .descending => .desc)]

/-- A number of rows. -/
def countLexemes (count : UInt64) : List Lexeme :=
  [.number count.toNat.repr none]

/-- The test of an update or a deletion. -/
def EqualityTest.lexemes (test : EqualityTest) : List Lexeme :=
  .name test.column :: .symbol .equal :: literalLexemes test.literal

/-- A query. -/
def Query.lexemes (q : Query) : List Lexeme :=
  .keyword .select :: (if q.distinct then [.keyword .distinct] else []) ++
    separatedBy (.symbol .comma) (q.items.map SelectItem.lexemes) ++
    .keyword .fromWord :: .name q.source.name :: optionalLexemes asLexemes q.source.otherName ++
    q.joins.flatMap Join.lexemes ++
    optionalLexemes (.keyword .whereWord :: ·.lexemes) q.filter ++
    optionalLexemes (fun columns => .keyword .group :: .keyword .byWord ::
      separatedBy (.symbol .comma) (columns.map columnLexemes)) q.groupBy ++
    optionalLexemes (.keyword .having :: ·.lexemes) q.having ++
    optionalLexemes (.keyword .order :: .keyword .byWord :: ·.lexemes) q.orderBy ++
    optionalLexemes (.keyword .limit :: countLexemes ·) q.limit ++
    optionalLexemes (.keyword .offset :: countLexemes ·) q.offset

/-- The word for a type. -/
def ColumnType.keyword : ColumnType → Keyword
  | integer => .int
  | text => .text
  | boolean => .boolean

/-- The words for a primary key. -/
def keyLexemes : List Lexeme :=
  [.keyword .primary, .keyword .key]

/-- The declaration of a column. -/
def ColumnDefinition.lexemes (column : ColumnDefinition) : List Lexeme :=
  .name column.name :: .keyword column.type.keyword :: if column.isKey then keyLexemes else []

/-- An assignment of an update. -/
def assignmentLexemes (assignment : String × Value) : List Lexeme :=
  .name assignment.1 :: .symbol .equal :: literalLexemes assignment.2

namespace Statement

/-- The lexemes of a statement's canonical spelling. -/
def lexemes : Statement → List Lexeme
  | createTable name columns key =>
    .keyword .create :: .keyword .table :: .name name ::
      parenthesized (columns.map ColumnDefinition.lexemes ++
        (key.map fun key => keyLexemes ++ parenthesized [[.name key]]).toList)
  | insert table columns values =>
    .keyword .insert :: .keyword .into :: .name table ::
      parenthesized (columns.map fun column => [.name column]) ++
      .keyword .values :: parenthesized (values.map literalLexemes)
  | update table assignments test =>
    .keyword .update :: .name table :: .keyword .set ::
      separatedBy (.symbol .comma) (assignments.entries.map assignmentLexemes) ++
      optionalLexemes (.keyword .whereWord :: ·.lexemes) test
  | delete table test =>
    .keyword .delete :: .keyword .fromWord :: .name table ::
      optionalLexemes (.keyword .whereWord :: ·.lexemes) test
  | select q => q.lexemes

/-- The canonical spelling of a statement. -/
def render (s : Statement) : String :=
  Lexeme.layOut Lexeme.standsApart s.lexemes

end Statement

end RelStore
