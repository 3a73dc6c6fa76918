import Mathlib.Data.Nat.Digits.Defs
import RelStore.Proofs.Binary64.Nearest

/-!
# Integer numerals as doubles

An integer numeral of whatever length is read to the double nearest to its integer
(`read?_of_numeral`).  Reading does not form the powers of ten of a numeral of more than 310 digits,
but answers infinity at once: the integer is then beyond the finite doubles anyway
(`ofDecimal_of_ne_zero`).

The zero is the exception, because a double has two: `-0` is read to the other one.
-/

namespace RelStore

/-! ## Numerals -/

namespace Text

/-- The characters are one or more digits, with or without a sign, and denote the integer. -/
inductive Numeral : List Char → ℤ → Prop
  | unsigned {digits : List Char} (h : isDigits digits = true) :
      Numeral digits (digitsValue digits)
  | plus {digits : List Char} (h : isDigits digits = true) :
      Numeral ('+' :: digits) (digitsValue digits)
  | minus {digits : List Char} (h : isDigits digits = true) :
      Numeral ('-' :: digits) (-digitsValue digits)

/-- Digits do not begin with a character that is none. -/
theorem ne_cons_of_isDigits {digits : List Char} (h : isDigits digits = true) {c : Char}
    (hc : c.isDigit = false) (rest : List Char) : digits ≠ c :: rest := by
  rintro rfl
  obtain ⟨-, hall⟩ := Bool.and_eq_true_iff.mp h
  obtain ⟨hdigit, -⟩ := Bool.and_eq_true_iff.mp hall
  exact Bool.false_ne_true (hc.symm.trans hdigit)

/-- **Exactly the numerals are read**, each to the integer that it denotes. -/
theorem numeral_iff {cs : List Char} {n : ℤ} : Numeral cs n ↔ readInteger? cs = some n := by
  constructor
  · intro h
    cases h with
    | unsigned h =>
        unfold readInteger?
        split
        · exact absurd rfl (ne_cons_of_isDigits h rfl _)
        · exact absurd rfl (ne_cons_of_isDigits h rfl _)
        · exact if_pos h
    | plus h => exact if_pos h
    | minus h => exact if_pos h
  · intro h
    have hread : ∀ {digits : List Char} {value : ℤ},
        (if isDigits digits then some value else none) = some n →
        isDigits digits = true ∧ value = n := by
      intro digits value hsome
      split at hsome
      next hdigits => exact ⟨hdigits, Option.some.inj hsome⟩
      next => contradiction
    unfold readInteger? at h
    split at h
    all_goals obtain ⟨hdigits, rfl⟩ := hread h
    · exact .minus hdigits
    · exact .plus hdigits
    · exact .unsigned hdigits

end Text

namespace Binary64

open Text

/-! ## Doubles read from numerals -/

/-- A number other than zero is read to the double nearest to it, be its powers of ten formed or
not. -/
theorem ofDecimal_of_ne_zero {n : Nat} (hn : n ≠ 0) (negative : Bool) :
    ofDecimal negative n 0 = ofUnits negative (n * unitsPerOne) 1 := by
  have hsmall : ¬ (n = 0 || decide ((decimalLength n : ℤ) + 0 < -330)) = true := by
    rw [Bool.or_eq_true, decide_eq_true_eq, decide_eq_true_eq]
    omega
  unfold ofDecimal
  dsimp only
  rw [if_neg hsmall]
  split
  next hlong =>
    have hpow : 10 ^ 310 ≤ n := by
      by_contra hlt
      have hlength := Nat.toDigits_length 10 n 310 (by decide) (Nat.lt_of_not_le hlt)
      unfold decimalLength at hlong
      omega
    have hinfinite : roundMagnitude (n * unitsPerOne) 1 = infiniteMagnitude := by
      refine le_antisymm (Nat.min_le_right _ _) ?_
      calc infiniteMagnitude = roundMagnitude (10 ^ 310 * unitsPerOne) 1 := by decide +kernel
        _ ≤ roundMagnitude (n * unitsPerOne) 1 :=
          roundMagnitude_mono (Nat.mul_le_mul_right _ hpow)
    unfold ofUnits
    rw [hinfinite]
  next =>
    have hone : n * Nat.pow 10 (0 : ℤ).toNat = n := Nat.mul_one n
    rw [if_pos le_rfl, hone]

/-- **An integer numeral is read to the double nearest to its integer.** -/
theorem read?_of_numeral {cs : List Char} {n : ℤ} (h : Numeral cs n) (hn : n ≠ 0) :
    read? cs = some (ofInt n) := by
  unfold ofInt
  cases h with
  | unsigned h =>
      have hread : read? cs = readUnsigned? false cs := by
        unfold read?
        split
        · exact absurd rfl (ne_cons_of_isDigits h rfl _)
        · exact absurd rfl (ne_cons_of_isDigits h rfl _)
        · rfl
      rw [hread, readUnsigned?_of_isDigits h, ofDecimal_of_ne_zero (by omega), Int.natAbs_natCast,
        decide_eq_false (by omega)]
  | @plus digits h =>
      show readUnsigned? false digits = _
      rw [readUnsigned?_of_isDigits h, ofDecimal_of_ne_zero (by omega), Int.natAbs_natCast,
        decide_eq_false (by omega)]
  | @minus digits h =>
      show readUnsigned? true digits = _
      rw [readUnsigned?_of_isDigits h, ofDecimal_of_ne_zero (by omega), Int.natAbs_neg,
        Int.natAbs_natCast, decide_eq_true (by omega)]

end Binary64

end RelStore
