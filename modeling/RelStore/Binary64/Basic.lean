/-!
# Floating-point numbers of 64 bits

A `Binary64` is the word of 64 bits that encodes a double: a sign bit, eleven exponent bits and
52 fraction bits.  Two numbers are the same value exactly when their words are, so the two zeros
differ, and so do two not-a-numbers with different payloads.

Every finite double is a whole number of units of 2^-1074, and that whole number, `units`, is how
all arithmetic here is stated: it is exact, so comparing, adding and rounding are integer problems.

| word below the sign bit | meaning in units |
| --- | --- |
| `m < 2^52` | `m` |
| `e * 2^52 + f`, `1 ≤ e` | `(2^52 + f) * 2^(e-1)` |
| `2047 * 2^52` | infinity |
| above | not a number |
-/

namespace RelStore

/-- A floating-point number, given by its encoding. -/
structure Binary64 where
  /-- The sign bit, then the exponent, then the fraction. -/
  bits : UInt64
deriving DecidableEq, Repr

namespace Binary64

/-- How many units of 2^-1074 make one. -/
def unitsPerOne : Nat := 1 <<< 1074

/-- The weight of the sign bit, 2^63. -/
def signBit : Nat := 0x8000000000000000

/-- The weight of the leading bit of a significand, 2^52.  It is not encoded, and is one step of
the exponent. -/
def hiddenBit : Nat := 0x10000000000000

/-- The magnitude of infinity: every smaller one is finite, every greater one not a number. -/
def infiniteMagnitude : Nat := 2047 * hiddenBit

/-- The encoding without its sign bit. -/
def magnitude (x : Binary64) : Nat :=
  x.bits.toNat % signBit

/-- Whether the sign bit is set. -/
def isNegative (x : Binary64) : Bool :=
  decide (signBit ≤ x.bits.toNat)

/-- The number with the given sign and magnitude. -/
def ofMagnitude (negative : Bool) (m : Nat) : Binary64 :=
  ⟨UInt64.ofNat (if negative then signBit + m else m)⟩

/-- Whether the encoding is not a number. -/
def isNaN (x : Binary64) : Bool :=
  decide (infiniteMagnitude < x.magnitude)

/-- Whether the encoding is a number other than the infinities. -/
def isFinite (x : Binary64) : Bool :=
  decide (x.magnitude < infiniteMagnitude)

/-- The not-a-number that invalid operations answer, of the given sign. -/
def nan (negative : Bool) : Binary64 :=
  ofMagnitude negative (infiniteMagnitude + hiddenBit / 2)

/-- The exponent of the spacing, in units, between a magnitude and the next one up. -/
def spacing (m : Nat) : Nat :=
  m / hiddenBit - 1

/-- What a magnitude is worth in units; infinity counts as the number just past the finite ones. -/
def magnitudeUnits (m : Nat) : Nat :=
  if m < hiddenBit then m else (hiddenBit + m % hiddenBit) <<< spacing m

/-- The exact value in units, signed. -/
def units (x : Binary64) : Int :=
  if x.isNegative then -(magnitudeUnits x.magnitude : Int) else magnitudeUnits x.magnitude

/-- The order of two numbers by exact value; none if either is not a number. -/
def compare? (x y : Binary64) : Option Ordering :=
  if x.isNaN || y.isNaN then none else some (compare x.units y.units)

/-- Whether two numbers have the same value: the zeros have, a not-a-number and itself have not. -/
def sameValue (x y : Binary64) : Bool :=
  x.compare? y == some .eq

/-- Whether the number is finite and whole. -/
def isWhole (x : Binary64) : Bool :=
  x.isFinite && decide (x.units % unitsPerOne = 0)

/-- Whether the number is finite and not whole. -/
def isFractional (x : Binary64) : Bool :=
  x.isFinite && !decide (x.units % unitsPerOne = 0)

/-- The whole number nearest to a finite number on the side of zero. -/
def wholePart (x : Binary64) : Int :=
  x.units.tdiv unitsPerOne

end Binary64

end RelStore
