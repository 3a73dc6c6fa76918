import RelStore.Binary64.Rounding
import RelStore.Text.Numeral

/-!
# Reading a double from decimal text

The grammar is an optional sign followed by one of

* `inf`, `infinity` or `nan` in any letter case;
* digits with at most one point among or beside them, at least one digit in all, and then
  optionally `e` or `E`, an optional sign and at least one digit.

The text denotes `coefficient * 10^exponent`, and is read to the double nearest to that.  Numbers
whose size is decided by their digit count alone never have their powers of ten formed.
-/

namespace RelStore.Binary64

open Text

/-- The double nearest to `coefficient * 10^exponent`. -/
def ofDecimal (negative : Bool) (coefficient : Nat) (exponent : Int) : Binary64 :=
  let size : Int := decimalLength coefficient + exponent
  if coefficient = 0 || decide (size < -330) then ofMagnitude negative 0
  else if 310 < size then ofMagnitude negative infiniteMagnitude
  else if 0 ≤ exponent then
    ofUnits negative (coefficient * Nat.pow 10 exponent.toNat * unitsPerOne) 1
  else ofUnits negative (coefficient * unitsPerOne) (Nat.pow 10 (-exponent).toNat)

/-- Reads what follows the digits of a number: nothing, or a marked exponent. -/
def readExponent? : List Char → Option Int
  | [] => some 0
  | c :: cs => if c = 'e' ∨ c = 'E' then readInteger? cs else none

/-- Reads an unsigned number made of digits, a point and an exponent. -/
def readDigits? (negative : Bool) (cs : List Char) : Option Binary64 :=
  let whole := cs.takeWhile Char.isDigit
  let rest := cs.dropWhile Char.isDigit
  let (fraction, rest) := match rest with
    | '.' :: tail => (tail.takeWhile Char.isDigit, tail.dropWhile Char.isDigit)
    | _ => ([], rest)
  if (whole ++ fraction).isEmpty then none
  else
    (readExponent? rest).map fun exponent =>
      ofDecimal negative (digitsValue (whole ++ fraction)) (exponent - fraction.length)

/-- Reads an unsigned number, the named ones included. -/
def readUnsigned? (negative : Bool) (cs : List Char) : Option Binary64 :=
  let word := cs.map Char.toLower
  if word = "inf".toList ∨ word = "infinity".toList then
    some (ofMagnitude negative infiniteMagnitude)
  else if word = "nan".toList then
    some (nan negative)
  else readDigits? negative cs

/-- Reads a number with an optional sign. -/
def read? : List Char → Option Binary64
  | '-' :: cs => readUnsigned? true cs
  | '+' :: cs => readUnsigned? false cs
  | cs => readUnsigned? false cs

end RelStore.Binary64
