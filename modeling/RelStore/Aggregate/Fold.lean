import RelStore.Binary64.Arithmetic
import RelStore.Table

/-!
# Folding a group to one value

What each aggregate function makes of the values that a column has in the rows of a group.  Nulls
are left out throughout; a count without a column counts the rows.

| function | over no values | over others |
| --- | --- | --- |
| `COUNT` | 0 | how many |
| `SUM` | 0 | an integer as long as the running sum is one, a double from there on |
| `AVG` | null | a double |
| `MIN`, `MAX` | null | the first value that no later one is less, or greater, than |
-/

namespace RelStore

/-- The values at a position that are not null, in the order of the rows. -/
def nonNullAt (i : Nat) (rows : List Row) : List Value :=
  (rows.map (cellAt · i)).filter (!·.isNull)

/-- The values if all of them are numbers; otherwise an error about the first that is not. -/
def numbers (values : List Value) : Except Error (List Value) :=
  values.mapM fun v =>
    match v with
    | .integer _ | .float _ => .ok v
    | _ => .error (.invalidValue (.notNumeric v))

/-- The sum of two numbers: the integer sum if it is in range, the sum as doubles otherwise. -/
def addNumbers (v w : Value) : Value :=
  let asDoubles : Value :=
    .float (v.asDouble?.getD (.ofInt 0) + w.asDouble?.getD (.ofInt 0))
  match v, w with
  | .integer a, .integer b =>
    match addInt64? a b with
    | some sum => .integer sum
    | none => asDoubles
  | _, _ => asDoubles

/-- The sum of the numbers, from the left. -/
def sumOf (values : List Value) : Value :=
  values.foldl addNumbers (.integer 0)

/-- The mean of the numbers.  The sum starts from the negative zero, which changes no summand. -/
def meanOf (values : List Value) : Value :=
  if values.isEmpty then .null
  else
    let total := (values.filterMap Value.asDouble?).foldl (· + ·) (.ofMagnitude true 0)
    .float (total / .ofInt values.length)

/-- The first value that no later value is in the given order to. -/
def extremeOf (order : Ordering) (values : List Value) : Value :=
  let better (best : Option Value) (v : Value) : Option Value :=
    match best with
    | none => some v
    | some b => if v.compare? b = some order then some v else some b
  (values.foldl better none).getD .null

/-- What a function makes of the rows of a group, the position being that of its column. -/
def AggregateFunction.fold (function : AggregateFunction) (position : Option Nat)
    (rows : List Row) : Except Error Value :=
  match function, position with
  | .count, none => .ok (.integer (.ofNat rows.length))
  | .count, some i => .ok (.integer (.ofNat (nonNullAt i rows).length))
  | _, none => .error (.internal .aggregateWithoutColumn)
  | .sum, some i => (numbers (nonNullAt i rows)).map sumOf
  | .avg, some i => (numbers (nonNullAt i rows)).map meanOf
  | .min, some i => .ok (extremeOf .lt (nonNullAt i rows))
  | .max, some i => .ok (extremeOf .gt (nonNullAt i rows))

end RelStore
