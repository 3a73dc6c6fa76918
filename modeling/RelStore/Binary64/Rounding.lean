import RelStore.Binary64.Basic

/-!
# Rounding to a double

A quotient of two whole numbers of units is rounded to the nearest double, a tie going to the one
whose encoding is even, and a quotient beyond the finite range going to infinity.

The quotient is first cut to 53 binary digits.  Dropping `s` digits leaves a significand `m` with
`2^52 ≤ m` as soon as `0 < s`, and then `s * 2^52 + m` is the magnitude: the leading digit of `m`
carries one into the exponent, and a significand that rounding carries to `2^53` carries one more.
-/

namespace RelStore.Binary64

/-- The whole number nearest to a quotient, a tie going to the even one. -/
def roundHalfEven (num den : Nat) : Nat :=
  let quotient := num / den
  let rest := num % den
  if 2 * rest < den then quotient
  else if den < 2 * rest then quotient + 1
  else if quotient % 2 = 0 then quotient else quotient + 1

/-- How many binary digits of a number stand beyond the leading 53. -/
def excessDigits (n : Nat) : Nat :=
  n.log2 + 1 - 53

/-- The magnitude nearest to a quotient of units. -/
def roundMagnitude (num den : Nat) : Nat :=
  let s := excessDigits (num / den)
  min (s * hiddenBit + roundHalfEven num (den <<< s)) infiniteMagnitude

/-- The double nearest to a signed quotient of units. -/
def ofUnits (negative : Bool) (num den : Nat) : Binary64 :=
  ofMagnitude negative (roundMagnitude num den)

/-- The double nearest to an integer. -/
def ofInt (n : Int) : Binary64 :=
  ofUnits (decide (n < 0)) (n.natAbs * unitsPerOne) 1

/-- A quotient that is a whole number is left as it is. -/
theorem roundHalfEven_mul_right (n : Nat) {den : Nat} (h : 0 < den) :
    roundHalfEven (n * den) den = n := by
  simp [roundHalfEven, Nat.mul_div_cancel _ h, h]

end RelStore.Binary64
