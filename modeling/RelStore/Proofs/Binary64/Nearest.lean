import Mathlib.Data.Nat.Log
import Mathlib.Order.Monotone.Basic
import RelStore.Proofs.Binary64.Exact
import RelStore.Proofs.Binary64.Whole

/-!
# The double nearest to an integer

Rounding loses digits, but never the order: the greater of two integers has no smaller double
(`units_ofInt_mono`).  The argument goes through the three steps that make the double.

| step | keeps the order | lemma |
| --- | --- | --- |
| the quotient to a whole number | yes | `roundHalfEven_mono` |
| the significand to a magnitude | yes | `roundMagnitude_mono` |
| the magnitude to units | strictly | `strictMono_magnitudeUnits` |

Integers of 53 binary digits lose nothing (`units_ofInt_of_natAbs_le`).  What is known of the double
of one integer so bounds the doubles of all integers on one side of it: this is how the ends of a
range are settled without looking at the integers in it.
-/

namespace RelStore.Binary64

/-! ## Order through rounding -/

theorem roundHalfEven_mono {a b den : Nat} (h : a ≤ b) :
    roundHalfEven a den ≤ roundHalfEven b den := by
  rcases (Nat.div_le_div_right h : a / den ≤ b / den).lt_or_eq with hlt | heq
  · calc roundHalfEven a den ≤ a / den + 1 := roundHalfEven_le a den
      _ ≤ b / den := hlt
      _ ≤ roundHalfEven b den := le_roundHalfEven b den
  · -- of one quotient, the greater rest is not rounded down where the other is rounded up
    have hrest : a % den ≤ b % den := by
      have ha := Nat.div_add_mod a den
      have hb := Nat.div_add_mod b den
      rw [heq] at ha
      omega
    unfold roundHalfEven
    dsimp only
    rw [heq]
    split_ifs <;> omega

theorem excessDigits_mono {a b : Nat} (h : a ≤ b) : excessDigits a ≤ excessDigits b := by
  have hlog : a.log2 ≤ b.log2 := by
    rw [Nat.log2_eq_log_two, Nat.log2_eq_log_two]
    exact Nat.log_mono_right h
  unfold excessDigits
  omega

theorem roundMagnitude_mono {a b den : Nat} (h : a ≤ b) :
    roundMagnitude a den ≤ roundMagnitude b den := by
  have hexcess : excessDigits (a / den) ≤ excessDigits (b / den) :=
    excessDigits_mono (Nat.div_le_div_right h)
  have ha := (roundedSignificand_bounds a den).2
  have hb := (roundedSignificand_bounds b den).1
  unfold roundMagnitude
  refine min_le_min_right _ ?_
  rcases hexcess.lt_or_eq with hlt | heq
  · -- the significand of more digits makes up for the greatest of fewer
    have hdropped : excessDigits (a / den) * hiddenBit + hiddenBit ≤
        excessDigits (b / den) * hiddenBit := by
      rw [← Nat.succ_mul]
      exact Nat.mul_le_mul_right hiddenBit hlt
    have hfull := hb.resolve_left (Nat.ne_zero_of_lt hlt)
    omega
  · rw [heq]
    exact Nat.add_le_add_left (roundHalfEven_mono h) _

/-- A magnitude is a significand with digits dropped behind it. -/
theorem exists_significand (m : Nat) : ∃ s r, m = s * hiddenBit + r ∧
    (s = 0 ∨ hiddenBit ≤ r) ∧ r < 2 * hiddenBit := by
  refine ⟨m / hiddenBit - 1, m - (m / hiddenBit - 1) * hiddenBit, ?_⟩
  unfold hiddenBit
  omega

/-- The next magnitude up is worth more. -/
theorem strictMono_magnitudeUnits : StrictMono magnitudeUnits := by
  refine strictMono_nat_of_lt_succ fun m => ?_
  obtain ⟨s, r, rfl, hlow, hhigh⟩ := exists_significand m
  rw [magnitudeUnits_add hlow hhigh.le, Nat.add_assoc,
    magnitudeUnits_add (hlow.imp_right Nat.le_succ_of_le) hhigh]
  exact Nat.mul_lt_mul_of_pos_right (Nat.lt_succ_self r) (Nat.two_pow_pos s)

/-! ## Integers -/

/-- What the double nearest to a whole number is worth. -/
def nearestUnits (n : Nat) : Nat :=
  magnitudeUnits (roundMagnitude (n * unitsPerOne) 1)

theorem units_ofInt (n : ℤ) :
    (ofInt n).units = if n < 0 then -(nearestUnits n.natAbs : ℤ) else nearestUnits n.natAbs := by
  unfold ofInt ofUnits
  rw [units_ofMagnitude (roundMagnitude_lt_signBit _ _)]
  simp only [decide_eq_true_eq]
  rfl

theorem isNaN_ofInt (n : ℤ) : (ofInt n).isNaN = false := by
  unfold isNaN ofInt ofUnits
  rw [magnitude_ofMagnitude (roundMagnitude_lt_signBit _ _), decide_eq_false_iff_not, Nat.not_lt]
  exact Nat.min_le_right _ _

/-- Two doubles that are numbers compare as their units do. -/
theorem compare?_eq_some {x y : Binary64} (hx : x.isNaN = false) (hy : y.isNaN = false) :
    x.compare? y = some (compare x.units y.units) := by
  unfold compare?
  rw [hx, hy]
  rfl

theorem nearestUnits_mono {m n : Nat} (h : m ≤ n) : nearestUnits m ≤ nearestUnits n :=
  strictMono_magnitudeUnits.monotone (roundMagnitude_mono (Nat.mul_le_mul_right unitsPerOne h))

/-- **The greater of two integers has no smaller double.** -/
theorem units_ofInt_mono {m n : ℤ} (h : m ≤ n) : (ofInt m).units ≤ (ofInt n).units := by
  rw [units_ofInt, units_ofInt]
  split_ifs with hm hn hn
  · have hmn : nearestUnits n.natAbs ≤ nearestUnits m.natAbs := nearestUnits_mono (by omega)
    omega
  · omega
  · omega
  · have hmn : nearestUnits m.natAbs ≤ nearestUnits n.natAbs := nearestUnits_mono (by omega)
    omega

theorem roundMagnitude_lt_infiniteMagnitude {n : Nat} (h : n ≤ 2 ^ 64) :
    roundMagnitude (n * unitsPerOne) 1 < infiniteMagnitude :=
  calc roundMagnitude (n * unitsPerOne) 1
      ≤ roundMagnitude (2 ^ 64 * unitsPerOne) 1 :=
        roundMagnitude_mono (Nat.mul_le_mul_right unitsPerOne h)
    _ < infiniteMagnitude := by decide +kernel

/-- The double nearest to an integer is finite, if the integer is about as great as words are. -/
theorem isFinite_ofInt {n : ℤ} (h : n.natAbs ≤ 2 ^ 64) : (ofInt n).isFinite = true := by
  unfold isFinite ofInt ofUnits
  rw [magnitude_ofMagnitude (roundMagnitude_lt_signBit _ _), decide_eq_true_iff]
  exact roundMagnitude_lt_infiniteMagnitude h

/-- A whole number of 53 binary digits is its own nearest double. -/
theorem nearestUnits_of_le {n : Nat} (h : n ≤ 2 ^ 53) : nearestUnits n = n * unitsPerOne := by
  rcases h.lt_or_eq with hlt | rfl
  · refine magnitudeUnits_roundMagnitude_of_dvd
      (roundMagnitude_lt_infiniteMagnitude (h.trans (by decide))) ?_
    -- no more digits are dropped than a whole number of units has zeros
    obtain ⟨e, -, he⟩ := exists_unitsPerOne_eq
    have hexcess : excessDigits (n * 2 ^ e) ≤ e := by
      have hlog : (n * 2 ^ e).log2 < 53 + e := by
        by_cases hzero : n * 2 ^ e = 0
        · rw [hzero, Nat.log2_zero]
          omega
        · rw [Nat.log2_lt hzero, Nat.pow_add]
          exact Nat.mul_lt_mul_of_pos_right hlt (Nat.two_pow_pos e)
      unfold excessDigits
      omega
    rw [he]
    exact (Nat.pow_dvd_pow 2 hexcess).mul_left n
  · decide +kernel

/-- **An integer of 53 binary digits is its own nearest double.** -/
theorem units_ofInt_of_natAbs_le {n : ℤ} (h : n.natAbs ≤ 2 ^ 53) :
    (ofInt n).units = n * unitsPerOne := by
  rw [units_ofInt, nearestUnits_of_le h, Nat.cast_mul, ← neg_mul]
  split_ifs with hn
  · rw [show -(n.natAbs : ℤ) = n by omega]
  · rw [show (n.natAbs : ℤ) = n by omega]

end RelStore.Binary64
