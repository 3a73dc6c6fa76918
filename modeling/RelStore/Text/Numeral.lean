/-!
# Decimal numerals

Reading and writing integers in base ten.  A numeral is read to the integer it denotes, whatever
its length; whether that integer fits its place is asked afterwards.
-/

namespace RelStore.Text

/-- Whether the characters are one or more ASCII digits. -/
def isDigits (cs : List Char) : Bool :=
  !cs.isEmpty && cs.all Char.isDigit

/-- The number that a run of ASCII digits denotes. -/
def digitsValue (cs : List Char) : Nat :=
  Nat.ofDigitChars 10 cs 0

/-- Reads an optional sign followed by one or more digits, and nothing else. -/
def readInteger? : List Char → Option Int
  | '-' :: ds => if isDigits ds then some (-(digitsValue ds : Int)) else none
  | '+' :: ds => if isDigits ds then some (digitsValue ds : Int) else none
  | ds => if isDigits ds then some (digitsValue ds : Int) else none

/-- The digits of the magnitude, after a minus sign if the integer is negative. -/
def integerText (n : Int) : String :=
  if n < 0 then "-" ++ n.natAbs.repr else n.natAbs.repr

/-- How many digits the number is written with. -/
def decimalLength (n : Nat) : Nat :=
  (Nat.toDigits 10 n).length

/-- The written digits of a number denote it. -/
@[simp] theorem digitsValue_toDigits (n : Nat) : digitsValue (Nat.toDigits 10 n) = n := by
  simp [digitsValue]

/-- The written digits of a number are digits. -/
@[simp] theorem isDigits_toDigits (n : Nat) : isDigits (Nat.toDigits 10 n) = true := by
  simp only [isDigits, Bool.and_eq_true, Bool.not_eq_true', List.isEmpty_eq_false_iff,
    List.all_eq_true]
  exact ⟨Nat.toDigits_ne_nil, fun _ hc => Nat.isDigit_of_mem_toDigits (by decide) (by decide) hc⟩

end RelStore.Text
