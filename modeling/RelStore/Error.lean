import RelStore.Aggregate.Basic
import RelStore.Text.Quoted
import RelStore.Token.Basic
import RelStore.Value.Basic

/-!
# Why a statement fails

An `Error` is a cause, with what the message about it has to name.  The messages themselves are
written in one place, `Error.message`; each opens with the words for its kind of cause.

| kind | raised when |
| --- | --- |
| `unsupportedStatement` | the first token opens no statement |
| `malformed` | the text is not of the shape of its kind of statement |
| `tableExists`, `tableNotFound` | a table's name is taken, or names nothing |
| `columnNotFound`, `missingColumn` | a column's name names nothing, or a column gets no value |
| `duplicateKey` | a primary key would occur twice |
| `havingRequiresAggregate`, `deleteRequiresWhere` | a clause lacks what it needs |
| `invalidValue` | a value does not fit its use |
| `invalidSchema` | a table is declared inconsistently |
| `internal` | a stage got what no statement leads to |
-/

namespace RelStore

/-- How the text of a statement departs from the shape of its kind. -/
inductive SyntaxError where
  | unexpectedCharacter (c : Char)
  | unterminatedText
  | unexpectedToken (t : Token)
  /-- The end of the text where a token is due. -/
  | unexpectedEnd
  /-- Another token than the only one possible. -/
  | expectedToken (expected actual : Token)
  | expectedName (actual : Token)
  | repeatedKeyConstraint
  | unknownFunction (name : String)
  /-- A star as the argument of another function than counting. -/
  | starArgument (function : AggregateFunction)
  | mixedConnectives
  | expectedComparison (actual : Token)
  | repeatedInsertColumn (column : String)
  /-- Another number of values than of columns. -/
  | unevenInsert (columns values : Nat)
  | repeatedUpdateColumn (column : String)
  | invalidLiteral (actual : Token)
  /-- A minus sign before something other than a number. -/
  | invalidNegative (actual : Token)
  /-- A token that is no count of rows where one is due. -/
  | expectedCount (actual : Token)
  | numeralTooLarge
  | numeralTooSmall
  | aggregateInWhere
  /-- A column, or all columns, selected beside an aggregate although nothing is grouped. -/
  | ungroupedSelection (selected : String)
  /-- A column selected from groups that is not the same throughout a group. -/
  | columnNotGrouped (column : String)
deriving DecidableEq, Repr

/-- How a value does not fit its use. -/
inductive ValueError where
  | notIntegerNumber (x : Binary64)
  | notIntegerText (s : String)
  /-- A value that is no number where numbers are added up. -/
  | notNumeric (v : Value)
deriving DecidableEq, Repr

/-- How the declaration of a table is inconsistent. -/
inductive SchemaError where
  | noColumns (table : String)
  | duplicateColumn (column table : String)
  | unknownPrimaryKey (key table : String)
  | multiplePrimaryKeys (table : String)
deriving DecidableEq, Repr

/-- What a stage got that no statement leads to. -/
inductive InternalError where
  /-- An outcome other than rows as the source of a stage. -/
  | unexpectedOutcome
  | aggregateInFilter (call : Aggregate)
  | aggregateInProjection (name : String)
  /-- An aggregate over the rows themselves that is not counting. -/
  | aggregateWithoutColumn
  /-- Another number of values than of columns. -/
  | unevenRow (columns values : Nat)
deriving DecidableEq, Repr

/-- Why a statement fails. -/
inductive Error where
  /-- The first token opens no statement; none if there is no token. -/
  | unsupportedStatement (first : Option Token)
  | malformed (cause : SyntaxError)
  | tableExists (name : String)
  | tableNotFound (name : String)
  /-- No column, or no single one, goes by the name. -/
  | columnNotFound (name : String)
  | missingColumn (name : String)
  | duplicateKey (column : String) (value : Value)
  /-- Groups are filtered although nothing is aggregated. -/
  | havingRequiresAggregate
  /-- All rows of a table would be deleted. -/
  | deleteRequiresWhere
  | invalidValue (cause : ValueError)
  | invalidSchema (cause : SchemaError)
  | internal (cause : InternalError)
deriving DecidableEq, Repr

/-! ## Messages -/

private def unevenText (columns values : Nat) : String :=
  columns.repr ++ " columns but " ++ values.repr ++ " values"

/-- The message about the shape of a text. -/
def SyntaxError.message : SyntaxError → String
  | unexpectedCharacter c => "[Lexer] Unexpected character " ++ c.toString
  | unterminatedText => "[Lexer] Unexpected end of string"
  | unexpectedToken t => "[Parser] Unexpected token " ++ t.toText
  | unexpectedEnd => "[Parser] Unexpected end of input"
  | expectedToken expected actual =>
    "[Parser] Expected token " ++ expected.toText ++ ", got " ++ actual.toText
  | expectedName actual => "[Parser] Expected ident, got token " ++ actual.toText
  | repeatedKeyConstraint => "[Parser] Multiple PRIMARY KEY constraints"
  | unknownFunction name => "[Parser] Unknown function " ++ name
  | starArgument function => "[Parser] " ++ function.name ++ "(*) is not supported"
  | mixedConnectives => "[Parser] Mixing AND and OR in one clause is not supported"
  | expectedComparison actual => "[Parser] Expected comparison operator, got " ++ actual.toText
  | repeatedInsertColumn column => "[Parser] Duplicate column " ++ column ++ " for insert"
  | unevenInsert columns values => "[Parser] " ++ unevenText columns values
  | repeatedUpdateColumn column => "[Parser] Duplicate column " ++ column ++ " for update"
  | invalidLiteral actual => "[Parser] Invalid value " ++ actual.toText
  | invalidNegative actual => "[Parser] Invalid value -" ++ actual.toText
  | expectedCount actual => "[Parser] Expected non-negative integer, got " ++ actual.toText
  | numeralTooLarge => "number too large to fit in target type"
  | numeralTooSmall => "number too small to fit in target type"
  | aggregateInWhere => "aggregate functions are not allowed in WHERE"
  | ungroupedSelection selected =>
    selected ++ " cannot be selected next to an aggregate without GROUP BY"
  | columnNotGrouped column =>
    "column " ++ column ++ " must appear in GROUP BY or inside an aggregate"

/-- The message about a value. -/
def ValueError.message : ValueError → String
  | notIntegerNumber x => x.toText ++ " is not a valid INT"
  | notIntegerText s => "'" ++ s ++ "' is not a valid INT"
  | notNumeric v => v.toText ++ " is not numeric"

/-- The message about a declaration. -/
def SchemaError.message : SchemaError → String
  | noColumns table => "table " ++ table ++ " has no columns"
  | duplicateColumn column table => "duplicate column " ++ column ++ " in table " ++ table
  | unknownPrimaryKey key table => "primary key " ++ key ++ " is not a column of table " ++ table
  | multiplePrimaryKeys table => "table " ++ table ++ " declares more than one primary key"

/-- A function's name as the description of a call shows it. -/
private def capitalizedName : AggregateFunction → String
  | .count => "Count"
  | .sum => "Sum"
  | .avg => "Avg"
  | .min => "Min"
  | .max => "Max"

/-- A call described by its parts, the column quoted. -/
private def describeCall (call : Aggregate) : String :=
  let column := match call.column with
    | none => "None"
    | some column => "Some(" ++ Text.quote column ++ ")"
  "Aggregate(Aggregate \x7b func: " ++ capitalizedName call.function ++ ", column: " ++ column ++
    " \x7d)"

/-- The message about a stage. -/
def InternalError.message : InternalError → String
  | unexpectedOutcome => "Unexpected result set"
  | aggregateInFilter call => "unexpected aggregate in WHERE: " ++ describeCall call
  | aggregateInProjection name => "aggregate " ++ name ++ " reached projection"
  | aggregateWithoutColumn => "aggregate needs a column argument"
  | unevenRow columns values => unevenText columns values

/-- The message about an error. -/
def Error.message : Error → String
  | unsupportedStatement first =>
    "unsupported statement: " ++ (first.map Token.toText).getD "empty statement"
  | malformed cause => "syntax error: " ++ cause.message
  | tableExists name => "table " ++ name ++ " already exists"
  | tableNotFound name => "table " ++ name ++ " does not exist"
  | columnNotFound name => "column " ++ name ++ " not found"
  | missingColumn name => "missing value for column " ++ name
  | duplicateKey column value =>
    "primary key " ++ column ++ " = " ++ value.toText ++ " already exists"
  | havingRequiresAggregate => "HAVING requires at least one aggregate column"
  | deleteRequiresWhere => "DELETE without WHERE is not allowed"
  | invalidValue cause => "invalid value: " ++ cause.message
  | invalidSchema cause => "invalid schema: " ++ cause.message
  | internal cause => "internal error: " ++ cause.message

end RelStore
