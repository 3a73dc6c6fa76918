import RelStore.Text.AsciiCase

/-!
# Aggregate calls

An aggregate folds the rows of a group to one value.  A call is a function and the column it runs
over; counting alone may run over the rows themselves, written with a star.
-/

namespace RelStore

/-- The aggregate functions. -/
inductive AggregateFunction where
  | count
  | sum
  | avg
  | min
  | max
deriving DecidableEq, Repr

namespace AggregateFunction

/-- The name a function is shown by. -/
def name : AggregateFunction → String
  | count => "COUNT"
  | sum => "SUM"
  | avg => "AVG"
  | min => "MIN"
  | max => "MAX"

/-- The upper case of a character where it is one of the letters of the functions' names: besides
the ASCII letters, the long s is an S and the dotless i an I. -/
def upperLetter (c : Char) : Char :=
  if c = '\u017f' then 'S' else if c = '\u0131' then 'I' else c.toUpper

/-- The function of the given name, in any letter case. -/
def ofName? (word : String) : Option AggregateFunction :=
  let upper := word.toList.map upperLetter
  [count, sum, avg, min, max].find? fun function => function.name.toList == upper

end AggregateFunction

/-- A call of an aggregate function. -/
structure Aggregate where
  function : AggregateFunction
  /-- The column it runs over, none for the rows themselves. -/
  column : Option String
deriving DecidableEq, Repr

/-- The call as it is written, its function in upper case. -/
def Aggregate.toText (call : Aggregate) : String :=
  call.function.name ++ "(" ++ call.column.getD "*" ++ ")"

end RelStore
