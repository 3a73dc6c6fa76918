import RelStore.Proofs.Binary64.Nearest
import RelStore.Value.Cast
import RelStore.Value.Order

/-!
# Integers compared with fractions

An integer meets a double as the double nearest to it, which is another number for half of the
integers beyond `2^53`.  With a fraction the comparison is exact all the same
(`Value.satisfies_fraction`), because the two never come close.

| integer | nearest double | a fraction |
| --- | --- | --- |
| at most `2^53` in absolute value | itself | anywhere below `2^52` in absolute value |
| beyond `2^53` | not this side of `2^53` | on the near side of both |

That a fraction is below `2^52` is in its encoding: from there on, doubles are 1 apart or more
(`natAbs_units_lt_of_isFractional`).
-/

namespace RelStore

/-! ## Comparisons as relations -/

namespace Comparison

universe u v

variable {α : Type u} {β : Type v} [LinearOrder α] [LinearOrder β]

/-- The relation that the comparison asks for. -/
def Relates (comparison : Comparison) (a b : α) : Prop :=
  match comparison with
  | equal => a = b
  | greater => a > b
  | less => a < b
  | greaterOrEqual => a ≥ b
  | lessOrEqual => a ≤ b

/-- A comparison holds of the order of two things just if they are in the relation. -/
theorem holds_compare_iff (comparison : Comparison) (a b : α) :
    comparison.holds (compare a b) = true ↔ comparison.Relates a b := by
  rcases lt_trichotomy a b with h | rfl | h
  · rw [compare_lt_iff_lt.mpr h]
    cases comparison <;> simp [holds, Relates, h, h.le, h.ne, h.not_gt]
  · rw [compare_eq_iff_eq.mpr rfl]
    cases comparison <;> simp [holds, Relates]
  · rw [compare_gt_iff_gt.mpr h]
    cases comparison <;> simp [holds, Relates, h, h.le, h.ne', h.not_gt]

/-- Which of two things is the less decides every relation between them. -/
theorem relates_congr (comparison : Comparison) {a b : α} {c d : β} (hlt : a < b ↔ c < d)
    (hgt : b < a ↔ d < c) : comparison.Relates a b ↔ comparison.Relates c d := by
  cases comparison with
  | equal =>
      show a = b ↔ c = d
      rw [le_antisymm_iff, le_antisymm_iff, ← not_lt, ← not_lt, hlt, hgt, not_lt, not_lt]
  | greater => exact hgt
  | less => exact hlt
  | greaterOrEqual => exact not_lt.symm.trans ((not_congr hlt).trans not_lt)
  | lessOrEqual => exact not_lt.symm.trans ((not_congr hgt).trans not_lt)

end Comparison

/-! ## Doubles with a fraction -/

namespace Binary64

variable {x : Binary64}

/-- A double has a fraction just if the number that its bits mean is no integer. -/
theorem isFractional_iff :
    x.isFractional = true ↔ x.exponentField ≠ 2047 ∧ ∀ n : ℤ, x.exactValue ≠ n := by
  have hwhole : x.units % unitsPerOne = 0 ↔ ∃ n : ℤ, x.exactValue = n := by
    simp only [exactValue_eq_intCast_iff, ← Int.dvd_iff_emod_eq_zero, dvd_iff_exists_eq_mul_left]
  unfold isFractional
  rw [Bool.and_eq_true, isFinite_iff, Bool.not_eq_true', decide_eq_false_iff_not, hwhole,
    not_exists]

theorem isNaN_of_isFractional (h : x.isFractional = true) : x.isNaN = false := by
  have hmagnitude := of_decide_eq_true (Bool.and_eq_true_iff.mp h).1
  exact decide_eq_false (by omega)

/-- A double with a fraction is below `2^52` in absolute value. -/
theorem natAbs_units_lt_of_isFractional (h : x.isFractional = true) :
    x.units.natAbs < 2 ^ 52 * unitsPerOne := by
  obtain ⟨e, he, hones⟩ := exists_unitsPerOne_eq
  have habs : x.units.natAbs = magnitudeUnits x.magnitude := by
    unfold units
    split <;> omega
  rw [habs]
  by_contra hlarge
  -- from the magnitude of `2^52` on, the spacing is one at least
  have hbound : magnitudeUnits (e * hiddenBit + hiddenBit) = 2 ^ 52 * unitsPerOne := by
    rw [magnitudeUnits_add (.inr le_rfl) (by decide), hones]
    rfl
  rw [not_lt, ← hbound, strictMono_magnitudeUnits.le_iff_le] at hlarge
  have hspacing : e ≤ spacing x.magnitude := by
    unfold spacing
    unfold hiddenBit at *
    omega
  have hdvd : unitsPerOne ∣ magnitudeUnits x.magnitude := by
    have hnormal : ¬ x.magnitude < hiddenBit := by
      unfold hiddenBit at *
      omega
    unfold magnitudeUnits
    rw [if_neg hnormal, Nat.shiftLeft_eq, hones]
    exact (Nat.pow_dvd_pow 2 hspacing).mul_left _
  have hwhole : x.units % unitsPerOne = 0 := by
    refine Int.emod_eq_zero_of_dvd (Int.natCast_dvd.mpr ?_)
    rwa [habs]
  unfold isFractional at h
  rw [decide_eq_true hwhole, Bool.not_true, Bool.and_false] at h
  contradiction

/-- **Rounding does not carry an integer past a number below `2^53`.** -/
theorem units_ofInt_lt_iff (hx : x.units.natAbs < 2 ^ 53 * unitsPerOne) (n : ℤ) :
    ((ofInt n).units < x.units ↔ n * unitsPerOne < x.units) ∧
      (x.units < (ofInt n).units ↔ x.units < n * unitsPerOne) := by
  have hones : (0 : ℤ) ≤ unitsPerOne := Int.natCast_nonneg _
  by_cases hn : n.natAbs ≤ 2 ^ 53
  · rw [units_ofInt_of_natAbs_le hn]
    exact ⟨Iff.rfl, Iff.rfl⟩
  · rcases lt_or_ge n 0 with hneg | hpos
    · have hnearest : (ofInt n).units ≤ (-2 ^ 53 : ℤ) * unitsPerOne :=
        calc (ofInt n).units ≤ (ofInt (-2 ^ 53)).units := units_ofInt_mono (by omega)
          _ = _ := units_ofInt_of_natAbs_le (by decide)
      have hexact : n * unitsPerOne ≤ (-2 ^ 53 : ℤ) * unitsPerOne :=
        Int.mul_le_mul_of_nonneg_right (by omega) hones
      omega
    · have hnearest : (2 ^ 53 : ℤ) * unitsPerOne ≤ (ofInt n).units :=
        calc (2 ^ 53 : ℤ) * unitsPerOne = (ofInt (2 ^ 53)).units :=
            (units_ofInt_of_natAbs_le (by decide)).symm
          _ ≤ (ofInt n).units := units_ofInt_mono (by omega)
      have hexact : (2 ^ 53 : ℤ) * unitsPerOne ≤ n * unitsPerOne :=
        Int.mul_le_mul_of_nonneg_right (by omega) hones
      omega

/-- Integers are to doubles in units as they are to the numbers that the bits mean. -/
theorem intCast_lt_exactValue_iff (n : ℤ) :
    ((n : ℚ) < x.exactValue ↔ n * unitsPerOne < x.units) ∧
      (x.exactValue < n ↔ x.units < n * unitsPerOne) := by
  have hones : (0 : ℚ) < unitsPerOne := by
    rw [unitsPerOne_eq_zpow]
    exact zpow_pos two_pos _
  constructor
  · rw [← mul_lt_mul_iff_left₀ hones, exactValue_mul_unitsPerOne]
    norm_cast
  · rw [← mul_lt_mul_iff_left₀ hones, exactValue_mul_unitsPerOne]
    norm_cast

end Binary64

/-! ## Columns of integers -/

/-- An integer is compared with a number as the double nearest to it is. -/
theorem Value.satisfies_integer_float (i : Int64) {x : Binary64} (hx : x.isNaN = false)
    (comparison : Comparison) : (integer i).satisfies comparison (.float x) =
      comparison.holds (compare (Binary64.ofInt i.toInt).units x.units) := by
  have hcompare := Binary64.compare?_eq_some (Binary64.isNaN_ofInt i.toInt) hx
  show ((Binary64.compare? _ x).map comparison.holds).getD false = _
  rw [hcompare]
  rfl

/-- **A column of integers is compared with a fraction exactly.**  A finite double that is no
integer is compared as it is, and any word stands to it in the relation asked for just if it does so
as the integer that it is to the number that the double's bits mean.  The two are never equal. -/
theorem Value.satisfies_fraction (i : Int64) {x : Binary64} (hfinite : x.exponentField ≠ 2047)
    (hfraction : ∀ n : ℤ, x.exactValue ≠ n) :
    ColumnType.integer.castComparand (.float x) = .ok (.float x) ∧
      (∀ comparison : Comparison, (integer i).satisfies comparison (.float x) = true ↔
        comparison.Relates (i.toInt : ℚ) x.exactValue) ∧
      (integer i).satisfies .equal (.float x) = false := by
  have hfractional : x.isFractional = true := Binary64.isFractional_iff.mpr ⟨hfinite, hfraction⟩
  have hrelates : ∀ comparison : Comparison,
      (integer i).satisfies comparison (.float x) = true ↔
        comparison.Relates (i.toInt : ℚ) x.exactValue := by
    intro comparison
    have hbound : x.units.natAbs < 2 ^ 53 * Binary64.unitsPerOne := by
      have hlt := Binary64.natAbs_units_lt_of_isFractional hfractional
      omega
    obtain ⟨hlt, hgt⟩ := Binary64.units_ofInt_lt_iff hbound i.toInt
    obtain ⟨hltExact, hgtExact⟩ := Binary64.intCast_lt_exactValue_iff (x := x) i.toInt
    calc (integer i).satisfies comparison (.float x) = true
        ↔ comparison.holds (compare (Binary64.ofInt i.toInt).units x.units) = true := by
          rw [satisfies_integer_float i (Binary64.isNaN_of_isFractional hfractional)]
      _ ↔ comparison.Relates (Binary64.ofInt i.toInt).units x.units :=
          comparison.holds_compare_iff _ _
      _ ↔ comparison.Relates (i.toInt : ℚ) x.exactValue :=
          comparison.relates_congr (hlt.trans hltExact.symm) (hgt.trans hgtExact.symm)
  refine ⟨if_pos hfractional, hrelates, ?_⟩
  rw [← Bool.not_eq_true, hrelates]
  exact (hfraction i.toInt).symm

/-- An integer without a double of its own, and the greatest double with a fraction. -/
theorem Value.satisfies_fraction_greatest :
    let x : Binary64 := ⟨0x432fffffffffffff⟩
    x.exponentField ≠ 2047 ∧ (∀ n : ℤ, x.exactValue ≠ n) ∧
      ColumnType.integer.castComparand (.float x) = .ok (.float x) ∧
      (integer 9007199254740993).satisfies .greater (.float x) = true ∧
      ((9007199254740993 : Int64).toInt : ℚ) > x.exactValue := by
  intro x
  obtain ⟨hfinite, hfraction⟩ := (Binary64.isFractional_iff (x := x)).mp (by decide +kernel)
  obtain ⟨hcast, hrelates, -⟩ := satisfies_fraction 9007199254740993 hfinite hfraction
  have hgreater : (integer 9007199254740993).satisfies .greater (.float x) = true := by
    decide +kernel
  exact ⟨hfinite, hfraction, hcast, hgreater, (hrelates .greater).mp hgreater⟩

end RelStore
