import Mathlib.Data.List.TakeWhile
import Mathlib.Tactic.Ring
import RelStore.Binary64.Decimal

/-!
# Rounding whole numbers

The magnitude `s * 2^52 + r` stands for the significand `r` with `s` digits dropped behind it, so it
is worth `r * 2^s` units (`magnitudeUnits_add`).  That is what rounding makes of a quotient
(`magnitudeUnits_roundMagnitude`), and it settles what rounding makes of a whole number: as long as
no more digits are dropped than a whole number of units has zeros at its end, nothing is lost, and
beyond that only multiples of one are left (`unitsPerOne_dvd_roundMagnitude`).  Either way the
result is whole, or an infinity; it is never a fraction.
-/

namespace RelStore.Binary64

/-! ## What a magnitude is worth -/

/-- A significand of 53 digits, or of fewer if none are dropped, is worth itself with as many zeros
behind it as digits were dropped. -/
theorem magnitudeUnits_add {s r : Nat} (hlow : s = 0 ∨ hiddenBit ≤ r) (hhigh : r ≤ 2 * hiddenBit) :
    magnitudeUnits (s * hiddenBit + r) = r * 2 ^ s := by
  unfold magnitudeUnits spacing
  unfold hiddenBit at *
  by_cases hsmall : s * 0x10000000000000 + r < 0x10000000000000
  · obtain rfl : s = 0 := by omega
    rw [if_pos hsmall]
    simp
  rw [if_neg hsmall, Nat.shiftLeft_eq]
  by_cases hcarry : r = 2 * 0x10000000000000
  · -- the significand was carried to 54 digits, which is one step of the exponent more
    rw [show (s * 0x10000000000000 + r) / 0x10000000000000 - 1 = s + 1 by omega,
      show (s * 0x10000000000000 + r) % 0x10000000000000 = 0 by omega, hcarry]
    ring
  · rw [show (s * 0x10000000000000 + r) / 0x10000000000000 - 1 = s by omega,
      show (s * 0x10000000000000 + r) % 0x10000000000000 = r - 0x10000000000000 by omega,
      show 0x10000000000000 + (r - 0x10000000000000) = r by omega]

/-! ## What rounding leaves -/

theorem le_roundHalfEven (num den : Nat) : num / den ≤ roundHalfEven num den := by
  unfold roundHalfEven
  grind

theorem roundHalfEven_le (num den : Nat) : roundHalfEven num den ≤ num / den + 1 := by
  unfold roundHalfEven
  grind

/-- Of the digits of a number 53 are left, or all if there are not more. -/
theorem significand_bounds (n : Nat) :
    (excessDigits n = 0 ∨ hiddenBit ≤ n / 2 ^ excessDigits n) ∧
      n / 2 ^ excessDigits n < 2 * hiddenBit := by
  have hbit : hiddenBit = 2 ^ 52 := rfl
  have hpos : 0 < 2 ^ excessDigits n := Nat.two_pow_pos _
  have hdigits : n.log2 + 1 ≤ 53 + excessDigits n := by unfold excessDigits; omega
  constructor
  · rw [or_iff_not_imp_left]
    intro hexcess
    have hlog : n.log2 = 52 + excessDigits n := by unfold excessDigits at *; omega
    have hne : n ≠ 0 := by
      rintro rfl
      rw [Nat.log2_zero] at hlog
      omega
    rw [Nat.le_div_iff_mul_le hpos, hbit]
    calc 2 ^ 52 * 2 ^ excessDigits n = 2 ^ n.log2 := by rw [← Nat.pow_add, ← hlog]
      _ ≤ n := Nat.log2_self_le hne
  · rw [Nat.div_lt_iff_lt_mul hpos, hbit]
    calc n < 2 ^ (n.log2 + 1) := Nat.lt_log2_self
      _ ≤ 2 ^ (53 + excessDigits n) := Nat.pow_le_pow_right (by decide) hdigits
      _ = 2 * 2 ^ 52 * 2 ^ excessDigits n := Nat.pow_add ..

/-- Rounding the digits that are left carries to 54 at most. -/
theorem roundedSignificand_bounds (num den : Nat) :
    (excessDigits (num / den) = 0 ∨
      hiddenBit ≤ roundHalfEven num (den <<< excessDigits (num / den))) ∧
    roundHalfEven num (den <<< excessDigits (num / den)) ≤ 2 * hiddenBit := by
  have hquotient : num / (den <<< excessDigits (num / den)) =
      num / den / 2 ^ excessDigits (num / den) := by
    rw [Nat.shiftLeft_eq, Nat.div_div_eq_div_mul]
  obtain ⟨hlow, hhigh⟩ := significand_bounds (num / den)
  have hle := roundHalfEven_le num (den <<< excessDigits (num / den))
  have hge := le_roundHalfEven num (den <<< excessDigits (num / den))
  rw [hquotient] at hle hge
  exact ⟨hlow.imp_right fun h => h.trans hge, by omega⟩

/-- **A rounded quotient is worth the significand left with the zeros put behind it.** -/
theorem magnitudeUnits_roundMagnitude {num den : Nat}
    (hfinite : roundMagnitude num den < infiniteMagnitude) :
    magnitudeUnits (roundMagnitude num den) =
      roundHalfEven num (den <<< excessDigits (num / den)) * 2 ^ excessDigits (num / den) := by
  obtain ⟨hlow, hhigh⟩ := roundedSignificand_bounds num den
  have hmagnitude : roundMagnitude num den = excessDigits (num / den) * hiddenBit +
      roundHalfEven num (den <<< excessDigits (num / den)) := by
    unfold roundMagnitude at hfinite ⊢
    dsimp only at hfinite ⊢
    omega
  rw [hmagnitude]
  exact magnitudeUnits_add hlow hhigh

theorem roundMagnitude_lt_signBit (num den : Nat) : roundMagnitude num den < signBit :=
  Nat.lt_of_le_of_lt (Nat.min_le_right ..) (by decide)

/-- Nothing is lost where the digits dropped are zeros. -/
theorem magnitudeUnits_roundMagnitude_of_dvd {n : Nat}
    (hfinite : roundMagnitude n 1 < infiniteMagnitude) (hzeros : 2 ^ excessDigits n ∣ n) :
    magnitudeUnits (roundMagnitude n 1) = n := by
  rw [magnitudeUnits_roundMagnitude hfinite, Nat.one_shiftLeft, Nat.div_one]
  obtain ⟨k, hk⟩ := hzeros
  have hrounded : roundHalfEven n (2 ^ excessDigits n) = k := by
    conv_lhs => arg 1; rw [hk, Nat.mul_comm]
    exact roundHalfEven_mul_right k (Nat.two_pow_pos _)
  rw [hrounded, Nat.mul_comm]
  exact hk.symm

/-- One is a power of two in units.  The exponent is kept a variable, so that nothing computes the
power. -/
theorem exists_unitsPerOne_eq : ∃ e, e = 1074 ∧ unitsPerOne = 2 ^ e := by
  obtain ⟨e, he⟩ : ∃ e, e = 1074 := ⟨_, rfl⟩
  refine ⟨e, he, ?_⟩
  unfold unitsPerOne
  rw [← Nat.one_shiftLeft, he]

/-- **Whole numbers are rounded to whole numbers.** -/
theorem unitsPerOne_dvd_roundMagnitude {n : Nat}
    (hfinite : roundMagnitude (n * unitsPerOne) 1 < infiniteMagnitude) :
    unitsPerOne ∣ magnitudeUnits (roundMagnitude (n * unitsPerOne) 1) := by
  obtain ⟨e, -, he⟩ := exists_unitsPerOne_eq
  by_cases hs : excessDigits (n * unitsPerOne) ≤ e
  · have hzeros : 2 ^ excessDigits (n * unitsPerOne) ∣ n * unitsPerOne := by
      conv_rhs => rw [he]
      exact (Nat.pow_dvd_pow 2 hs).mul_left n
    rw [magnitudeUnits_roundMagnitude_of_dvd hfinite hzeros]
    exact Nat.dvd_mul_left unitsPerOne n
  · rw [magnitudeUnits_roundMagnitude hfinite, Nat.div_one]
    conv_lhs => rw [he]
    exact (Nat.pow_dvd_pow 2 (by omega)).mul_left _

/-! ## Doubles made of magnitudes -/

section OfMagnitude

variable {m : Nat} (h : m < signBit) (negative : Bool)

include h

theorem magnitude_ofMagnitude : (ofMagnitude negative m).magnitude = m := by
  unfold magnitude ofMagnitude signBit at *
  cases negative <;> simp <;> omega

theorem units_ofMagnitude : (ofMagnitude negative m).units =
    if negative then -(magnitudeUnits m : Int) else magnitudeUnits m := by
  have hsign : (ofMagnitude negative m).isNegative = negative := by
    unfold isNegative ofMagnitude signBit at *
    cases negative <;> simp <;> omega
  unfold units
  rw [magnitude_ofMagnitude h, hsign]

end OfMagnitude

/-- **The double nearest to a whole number has no fraction.** -/
theorem isFractional_ofUnits (negative : Bool) (n : Nat) :
    (ofUnits negative (n * unitsPerOne) 1).isFractional = false := by
  have hmagnitude := roundMagnitude_lt_signBit (n * unitsPerOne) 1
  unfold isFractional ofUnits isFinite
  rw [magnitude_ofMagnitude hmagnitude, units_ofMagnitude hmagnitude]
  by_cases hfinite : roundMagnitude (n * unitsPerOne) 1 < infiniteMagnitude
  · have hdvd : (unitsPerOne : Int) ∣ magnitudeUnits (roundMagnitude (n * unitsPerOne) 1) :=
      Int.natCast_dvd_natCast.mpr (unitsPerOne_dvd_roundMagnitude hfinite)
    have hwhole : (if negative then -(magnitudeUnits (roundMagnitude (n * unitsPerOne) 1) : Int)
        else magnitudeUnits (roundMagnitude (n * unitsPerOne) 1)) % unitsPerOne = 0 := by
      split
      · exact Int.emod_eq_zero_of_dvd (Int.dvd_neg.mpr hdvd)
      · exact Int.emod_eq_zero_of_dvd hdvd
    rw [decide_eq_true hwhole, Bool.not_true, Bool.and_false]
  · rw [decide_eq_false hfinite, Bool.false_and]

/-! ## Numerals -/

open Text

theorem isFractional_infinite (negative : Bool) :
    (ofMagnitude negative infiniteMagnitude).isFractional = false := by
  cases negative <;> decide +kernel

theorem isFractional_zero (negative : Bool) : (ofMagnitude negative 0).isFractional = false := by
  cases negative <;> decide +kernel

/-- A whole number of digits is read to a double without a fraction, whatever their number. -/
theorem isFractional_ofDecimal (negative : Bool) (n : Nat) :
    (ofDecimal negative n 0).isFractional = false := by
  unfold ofDecimal
  dsimp only
  split
  · exact isFractional_zero negative
  · split
    · exact isFractional_infinite negative
    · rw [if_pos (Int.le_refl 0)]
      have hone : n * Nat.pow 10 (0 : Int).toNat = n := Nat.mul_one n
      rw [hone]
      exact isFractional_ofUnits negative n

/-- A digit is no letter, so case does not touch it. -/
theorem toLower_of_isDigit {c : Char} (h : c.isDigit = true) : c.toLower = c := by
  unfold Char.isDigit at h
  unfold Char.toLower
  grind

/-- Digits alone are read as the number that they denote. -/
theorem readUnsigned?_of_isDigits {cs : List Char} (hcs : isDigits cs = true) (negative : Bool) :
    readUnsigned? negative cs = some (ofDecimal negative (digitsValue cs) 0) := by
  obtain ⟨hne, hall⟩ := Bool.and_eq_true_iff.mp hcs
  have hdigits : ∀ c ∈ cs, c.isDigit = true := List.all_eq_true.mp hall
  -- digits are no letters of a named number
  have hword : cs.map Char.toLower = cs :=
    (List.map_congr_left fun c hc => toLower_of_isDigit (hdigits c hc)).trans (List.map_id cs)
  have hnamed : ∀ word : List Char, word.all Char.isDigit = false → cs ≠ word := by
    rintro word hword rfl
    exact Bool.false_ne_true (hword.symm.trans hall)
  -- and all of them belong to the whole part
  have hwhole : cs.takeWhile Char.isDigit = cs := List.takeWhile_eq_self_iff.mpr hdigits
  have hrest : cs.dropWhile Char.isDigit = [] := List.dropWhile_eq_nil_iff.mpr hdigits
  have hread : readDigits? negative cs = some (ofDecimal negative (digitsValue cs) 0) := by
    have hnonempty : ¬ (cs ++ []).isEmpty = true := by simpa using hne
    unfold readDigits?
    rw [hwhole, hrest]
    dsimp only
    rw [if_neg hnonempty, List.append_nil]
    rfl
  unfold readUnsigned?
  dsimp only
  rw [hword, if_neg (not_or.mpr ⟨hnamed _ (by decide), hnamed _ (by decide)⟩),
    if_neg (hnamed _ (by decide)), hread]

theorem isFractional_of_readUnsigned? {negative : Bool} {cs : List Char} (hcs : isDigits cs = true)
    {x : Binary64} (h : readUnsigned? negative cs = some x) : x.isFractional = false := by
  rw [readUnsigned?_of_isDigits hcs] at h
  obtain rfl := Option.some.inj h
  exact isFractional_ofDecimal negative _

/-- **An integer numeral is read to no fraction.** -/
theorem isFractional_of_readInteger? {cs : List Char} {n : Int} (hn : readInteger? cs = some n)
    {x : Binary64} (hx : read? cs = some x) : x.isFractional = false := by
  have hread : ∀ {negative : Bool} {digits : List Char} {value : Int},
      (if isDigits digits then some value else none) = some n →
      readUnsigned? negative digits = some x → x.isFractional = false := by
    intro negative digits value hsome hx
    split at hsome
    next hdigits => exact isFractional_of_readUnsigned? hdigits hx
    next => contradiction
  -- both readings look for the same signs
  unfold readInteger? at hn
  unfold read? at hx
  split at hn
  next => exact hread hn hx
  next => exact hread hn hx
  next hminus hplus =>
    split at hx
    next => exact absurd rfl (hminus _)
    next => exact absurd rfl (hplus _)
    next => exact hread hn hx

end RelStore.Binary64
