import RelStore.Statement.Basic
import RelStore.Token.Parser

/-!
# Names and literals

The smallest phrases of the grammar.  A name is a word or a keyword that is not reserved, the
latter in lower case; a column is a name, or two with a point between them.

Every parser of the grammar fails at the first token that does not fit, so which of two faults is
reported is decided by where they stand.
-/

namespace RelStore.Grammar

open RelStore.Parser

/-- Reads a keyword that has to be next. -/
def keyword (k : Keyword) : Parser Unit :=
  expect (.keyword k)

/-- Reads a symbol that has to be next. -/
def symbol (s : Symbol) : Parser Unit :=
  expect (.symbol s)

/-- Reads a keyword if it is next, and answers whether it was. -/
def acceptKeyword (k : Keyword) : Parser Bool :=
  accept (.keyword k)

/-- Reads a name. -/
def name : Parser String := do
  match ← next with
  | .word s => return s
  | .keyword k => if k.isReserved then malformed (.expectedName (.keyword k)) else return k.asName
  | token => malformed (.expectedName token)

/-- Reads what may follow a name to make it a qualified one. -/
def qualifiedFrom (first : String) : Parser String := do
  if ← accept (.symbol .period) then return qualify first (← name) else return first

/-- Reads the name of a column, qualified or not. -/
def columnName : Parser String := do
  qualifiedFrom (← name)

/-- The literal that a number denotes: an integer if it has no point, a double otherwise. -/
def numberLiteral (negative : Bool) (whole : String) (fraction : Option String) :
    Except SyntaxError Value :=
  match fraction with
  | none =>
    let size : Int := Text.digitsValue whole.toList
    match int64? (if negative then -size else size) with
    | some i => .ok (.integer i)
    | none => .error (if negative then .numeralTooSmall else .numeralTooLarge)
  | some fraction =>
    let digits := Text.digitsValue (whole.toList ++ fraction.toList)
    .ok (.float (.ofDecimal negative digits (-fraction.toList.length)))

/-- The parser that reads nothing and has the given outcome. -/
def ofResult {α : Type} : Except SyntaxError α → Parser α
  | .ok a => pure a
  | .error cause => malformed cause

/-- Reads a literal; the truth values are literals only where that is said. -/
def literal (allowBoolean : Bool) : Parser Value := do
  match ← next with
  | .text s => return .text s
  | .number whole fraction => ofResult (numberLiteral false whole fraction)
  | .symbol .minus =>
    match ← next with
    | .number whole fraction => ofResult (numberLiteral true whole fraction)
    | token => malformed (.invalidNegative token)
  | .keyword .null => return .null
  | .word s =>
    if Text.equalsIgnoreCase s "undefined" then return .null
    else malformed (.invalidLiteral (.word s))
  | .keyword .true =>
    if allowBoolean then return .boolean true else malformed (.invalidLiteral (.keyword .true))
  | .keyword .false =>
    if allowBoolean then return .boolean false else malformed (.invalidLiteral (.keyword .false))
  | token => malformed (.invalidLiteral token)

/-- Reads a number of rows. -/
def rowCount : Parser UInt64 := do
  match ← next with
  | .number whole none =>
    let n := Text.digitsValue whole.toList
    if n < UInt64.size then return UInt64.ofNat n else malformed .numeralTooLarge
  | token => malformed (.expectedCount token)

/-- Reads the rest of a clause that begins with the keyword, if it is there. -/
def clause? {α : Type} (k : Keyword) (rest : Parser α) : Parser (Option α) := do
  if ← acceptKeyword k then return some (← rest) else return none

end RelStore.Grammar
