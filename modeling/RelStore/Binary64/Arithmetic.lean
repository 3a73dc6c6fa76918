import RelStore.Binary64.Rounding

/-!
# Sums and quotients of doubles

The exact result is formed in units and rounded once.  What is left are the cases without an
exact result: an operand that is not a number is answered, opposite infinities and zero by zero
make a not-a-number.
-/

namespace RelStore.Binary64

/-- The sum, rounded to nearest.  An exact zero is negative only if both operands are. -/
def add (x y : Binary64) : Binary64 :=
  if x.isNaN then x
  else if y.isNaN then y
  else if !x.isFinite && !y.isFinite then if x = y then x else nan false
  else if !x.isFinite then x
  else if !y.isFinite then y
  else
    let sum := x.units + y.units
    if sum = 0 then ofMagnitude (x.isNegative && y.isNegative) 0
    else ofUnits (decide (sum < 0)) sum.natAbs 1

/-- The quotient, rounded to nearest. -/
def div (x y : Binary64) : Binary64 :=
  let negative := x.isNegative != y.isNegative
  if x.isNaN then x
  else if y.isNaN then y
  else if !x.isFinite then if y.isFinite then ofMagnitude negative infiniteMagnitude else nan false
  else if !y.isFinite then ofMagnitude negative 0
  else if y.units = 0 then if x.units = 0 then nan false else ofMagnitude negative infiniteMagnitude
  else ofUnits negative (x.units.natAbs * unitsPerOne) y.units.natAbs

instance : Add Binary64 where
  add := add

instance : Div Binary64 where
  div := div

end RelStore.Binary64
