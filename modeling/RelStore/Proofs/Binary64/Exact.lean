import Mathlib.Data.Rat.Cast.Order
import Mathlib.Tactic.Ring
import RelStore.Binary64.Basic

/-!
# The exact value of a double

The word of a double is read in three fields: the sign bit, the exponent `e` of eleven bits and the
fraction `f` of 52 bits.  They mean a rational number, `exactValue`.

| exponent field | value, up to the sign |
| --- | --- |
| `e = 0` | `f / 2^52 * 2^-1022` |
| `1 ≤ e ≤ 2046` | `(1 + f / 2^52) * 2^(e - 1023)` |
| `e = 2047` | none: an infinity, or not a number |

Everywhere else doubles are measured in units of `2^-1074`.  The two ways of measuring agree
(`exactValue_mul_unitsPerOne`), so what is said of units can be said of the number that the bits
mean, and the other way round.
-/

namespace RelStore.Binary64

/-- The eleven bits of the exponent. -/
def exponentField (x : Binary64) : Nat :=
  x.bits.toNat / 2 ^ 52 % 2 ^ 11

/-- The 52 bits of the fraction. -/
def fractionField (x : Binary64) : Nat :=
  x.bits.toNat % 2 ^ 52

/-- The number that the bits mean, if their exponent is not the last one. -/
def exactValue (x : Binary64) : ℚ :=
  (if x.isNegative then -1 else 1) *
    if x.exponentField = 0 then (x.fractionField / 2 ^ 52 : ℚ) * 2 ^ (-1022 : ℤ)
    else (1 + x.fractionField / 2 ^ 52 : ℚ) * 2 ^ (x.exponentField - 1023 : ℤ)

/-! ## Fields and magnitudes -/

theorem magnitude_div_hiddenBit (x : Binary64) : x.magnitude / hiddenBit = x.exponentField := by
  unfold magnitude signBit hiddenBit exponentField
  omega

theorem magnitude_mod_hiddenBit (x : Binary64) : x.magnitude % hiddenBit = x.fractionField := by
  unfold magnitude signBit hiddenBit fractionField
  omega

/-- The last exponent is that of the infinities and of what is not a number. -/
theorem isFinite_iff (x : Binary64) : x.isFinite = true ↔ x.exponentField ≠ 2047 := by
  have hexponent : x.exponentField < 2048 := Nat.mod_lt _ (by decide)
  have hdiv := x.magnitude_div_hiddenBit
  unfold isFinite infiniteMagnitude
  unfold hiddenBit at *
  rw [decide_eq_true_iff]
  omega

/-! ## Units -/

theorem unitsPerOne_eq_zpow : (unitsPerOne : ℚ) = 2 ^ (1074 : ℤ) := by
  have hpow : ∀ e : ℕ, ((1 <<< e : ℕ) : ℚ) = 2 ^ (e : ℤ) := by
    intro e
    rw [Nat.one_shiftLeft, zpow_natCast, Nat.cast_pow, Nat.cast_ofNat]
  exact hpow 1074

theorem unitsPerOne_ne_zero : (unitsPerOne : ℚ) ≠ 0 := by
  rw [unitsPerOne_eq_zpow]
  exact zpow_ne_zero _ two_ne_zero

/-- Powers of two in units. -/
theorem zpow_mul_unitsPerOne (k : ℤ) : (2 : ℚ) ^ k * unitsPerOne = 2 ^ (k + 1074) := by
  rw [unitsPerOne_eq_zpow, ← zpow_add₀ two_ne_zero]

/-- A magnitude is worth in units what its fields mean. -/
theorem magnitudeUnits_magnitude (x : Binary64) :
    (magnitudeUnits x.magnitude : ℚ) =
      (if x.exponentField = 0 then (x.fractionField / 2 ^ 52 : ℚ) * 2 ^ (-1022 : ℤ)
        else (1 + x.fractionField / 2 ^ 52 : ℚ) * 2 ^ (x.exponentField - 1023 : ℤ)) *
          unitsPerOne := by
  have hdiv := x.magnitude_div_hiddenBit
  have hmod := x.magnitude_mod_hiddenBit
  have hbit : (hiddenBit : ℚ) = 2 ^ 52 := by norm_num [hiddenBit]
  unfold magnitudeUnits spacing
  by_cases hzero : x.exponentField = 0
  · have hsmall : x.magnitude < hiddenBit := by
      unfold hiddenBit at *
      omega
    have hfraction : x.magnitude = x.fractionField := by rw [← hmod, Nat.mod_eq_of_lt hsmall]
    rw [if_pos hsmall, if_pos hzero, mul_assoc, zpow_mul_unitsPerOne, hfraction]
    norm_num
  · have hlarge : ¬ x.magnitude < hiddenBit := by
      unfold hiddenBit at *
      omega
    obtain ⟨e, he⟩ := Nat.exists_eq_succ_of_ne_zero hzero
    have hexponent : (x.exponentField - 1023 : ℤ) + 1074 = 52 + e := by
      rw [he]
      push_cast
      ring
    rw [if_neg hlarge, if_neg hzero, mul_assoc, zpow_mul_unitsPerOne, hexponent, hdiv, hmod,
      Nat.shiftLeft_eq, he, Nat.succ_sub_one, zpow_add₀ two_ne_zero, zpow_natCast]
    have hcleared : (1 + x.fractionField / 2 ^ 52 : ℚ) * 2 ^ 52 = 2 ^ 52 + x.fractionField := by
      rw [add_mul, one_mul, div_mul_cancel₀ _ (pow_ne_zero 52 two_ne_zero)]
    push_cast
    rw [hbit, ← hcleared]
    ring

/-- **The number that the bits mean is the number of units.** -/
theorem exactValue_mul_unitsPerOne (x : Binary64) : x.exactValue * unitsPerOne = x.units := by
  unfold exactValue units
  rw [mul_assoc, ← magnitudeUnits_magnitude]
  split
  · push_cast
    ring
  · push_cast
    ring

/-! ## Whole numbers -/

theorem exactValue_eq_intCast_iff {x : Binary64} {n : ℤ} :
    x.exactValue = n ↔ x.units = n * unitsPerOne := by
  rw [← mul_left_inj' unitsPerOne_ne_zero, exactValue_mul_unitsPerOne]
  norm_cast

/-- **A double is whole just if the number that its bits mean is**, and then that is its whole
part. -/
theorem isWhole_and_wholePart_iff {x : Binary64} {n : ℤ} :
    x.isWhole = true ∧ x.wholePart = n ↔ x.exponentField ≠ 2047 ∧ x.exactValue = n := by
  have hpos : (unitsPerOne : ℤ) ≠ 0 := by exact_mod_cast unitsPerOne_ne_zero
  rw [← isFinite_iff, exactValue_eq_intCast_iff]
  unfold isWhole wholePart
  rw [Bool.and_eq_true, decide_eq_true_iff, and_assoc]
  refine and_congr_right fun _ => ⟨?_, ?_⟩
  · rintro ⟨hmod, rfl⟩
    exact (Int.tdiv_mul_cancel (Int.dvd_of_emod_eq_zero hmod)).symm
  · intro hunits
    rw [hunits]
    exact ⟨Int.mul_emod_left _ _, Int.mul_tdiv_cancel _ hpos⟩

end RelStore.Binary64
