import RelStore.Binary64.Basic
import RelStore.Text.Numeral

/-!
# The shortest decimal text of a double

A finite double is written with the fewest significant digits that still round to it, and among
those with the digits nearest to its value; of two equally near the greater is taken.  The text is
positional whatever the size: no exponent, no point after a whole number.

The search runs over the decimal grids of 1, 2, … 17 significant digits.  On each, only the two
neighbours of the value can be in the interval of reals that round to the double, so the first
grid on which one of them is decides the number of digits.  Lengths are measured in quarters of a
unit, which makes the ends of that interval whole numbers.
-/

namespace RelStore

open Text

/-- The number `coefficient * 10^exponent`. -/
structure Decimal where
  /-- The digits, read as a number. -/
  coefficient : Nat
  /-- The power of ten that the last digit counts. -/
  exponent : Int
deriving DecidableEq, Repr

/-- The characters without the zeros at their end. -/
def dropTrailingZeros (cs : List Char) : List Char :=
  (cs.reverse.dropWhile (· == '0')).reverse

/-- Positional text: all digits of the whole part, then a point and the fraction, if there is
one, without zeros at its end. -/
def Decimal.toText (d : Decimal) : String :=
  if 0 ≤ d.exponent then (d.coefficient * Nat.pow 10 d.exponent.toNat).repr
  else
    let places := (-d.exponent).toNat
    let whole := d.coefficient / Nat.pow 10 places
    let fraction := d.coefficient % Nat.pow 10 places
    if fraction = 0 then whole.repr
    else
      let digits := Nat.toDigits 10 fraction
      let padded := List.replicate (places - digits.length) '0' ++ digits
      whole.repr ++ "." ++ String.ofList (dropTrailingZeros padded)

namespace Binary64

/-- The reals that round to a double, in quarters of a unit. -/
structure RoundingInterval where
  /-- The exact value. -/
  value : Nat
  /-- Half way to the next smaller double. -/
  low : Nat
  /-- Half way to the next greater double. -/
  high : Nat
  /-- Whether the ends themselves round to the double. -/
  closed : Bool
deriving DecidableEq, Repr

/-- The interval of a positive finite magnitude.  Just above a power of two the doubles below are
twice as close as those above; ties go to the even encoding. -/
def roundingInterval (m : Nat) : RoundingInterval :=
  let value := 4 * magnitudeUnits m
  let quarter := 1 <<< spacing m
  { value
    low := value - if m % hiddenBit = 0 ∧ 2 * hiddenBit ≤ m then quarter else 2 * quarter
    high := value + 2 * quarter
    closed := m % 2 = 0 }

/-- Whether a length, in quarters of a unit times `scale`, lies in the interval. -/
def RoundingInterval.covers (i : RoundingInterval) (scale length : Nat) : Bool :=
  if i.closed then decide (i.low * scale ≤ length ∧ length ≤ i.high * scale)
  else decide (i.low * scale < length ∧ length < i.high * scale)

/-- The multiple of `10^exponent` that lies in the interval and is nearest to the value. -/
def RoundingInterval.nearestOnGrid? (i : RoundingInterval) (exponent : Int) : Option Nat :=
  let scale := Nat.pow 10 (-exponent).toNat
  let step := 4 * unitsPerOne * Nat.pow 10 exponent.toNat
  let below := i.value * scale / step
  let above := below + 1
  match i.covers scale (below * step), i.covers scale (above * step) with
  | true, true =>
    if i.value * scale - below * step < above * step - i.value * scale then some below
    else some above
  | true, false => some below
  | false, true => some above
  | false, false => none

/-- The power of ten just above the value: the least `k` with `value < 10^k`. -/
def RoundingInterval.decade (i : RoundingInterval) : Int :=
  decimalLength (i.value * Nat.pow 10 400 / (4 * unitsPerOne)) - 400

/-- The shortest decimal that rounds to a positive finite magnitude. -/
def shortestDecimal (m : Nat) : Decimal :=
  let i := roundingInterval m
  let onDigits (n : Nat) : Option Decimal :=
    (i.nearestOnGrid? (i.decade - n)).map fun coefficient => ⟨coefficient, i.decade - n⟩
  ((List.range' 1 17).findSome? onDigits).getD ⟨0, 0⟩

/-- The text of a double. -/
def toText (x : Binary64) : String :=
  if x.isNaN then "NaN"
  else
    let sign := if x.isNegative then "-" else ""
    if !x.isFinite then sign ++ "inf"
    else if x.magnitude = 0 then sign ++ "0"
    else sign ++ (shortestDecimal x.magnitude).toText

end Binary64

end RelStore
