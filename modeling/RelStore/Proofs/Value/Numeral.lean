import RelStore.Proofs.Binary64.Numeral
import RelStore.Proofs.Value.Comparand

/-!
# Integer numerals cast to integers

A text that is an integer numeral is cast to its integer if that is a word of 64 bits.  If it is
not, the text is read once more, as a double, and the double is cast.  So what decides is not the
integer but the double nearest to it: the range is tested after the rounding, and it is 1024 wider
on both sides than the words.

| integer | nearest double | cast to |
| --- | --- | --- |
| `-2^63 ≤ n < 2^63` | not formed | itself |
| `2^63 ≤ n ≤ 2^63 + 1024` | `2^63` | `2^63 - 1` |
| `-2^63 - 1024 ≤ n < -2^63` | `-2^63` | `-2^63` |
| any other | beyond these | no integer |

The doubles next to `2^63` and `-2^63` are 2048 away on the far side, and a tie goes to the even
one, which is the nearer to zero.  As rounding keeps the order, the doubles at the ends of these
ranges settle all others (`integerOfDouble_ofInt`).
-/

namespace RelStore

open Binary64

/-! ## Whole doubles and the range of words -/

/-- A whole number of ones from the least word to one past the greatest is cast to a word. -/
theorem integerOfDouble_of_units {x : Binary64} {k : ℤ} (hfinite : x.isFinite = true)
    (hunits : x.units = k * unitsPerOne) (hlow : Int64.minValue.toInt ≤ k)
    (hhigh : k ≤ Int64.maxValue.toInt + 1) : integerOfDouble x = .ok (.ofIntClamp k) := by
  have hexponent : x.exponentField ≠ 2047 := (isFinite_iff x).mp hfinite
  obtain ⟨hwhole, rfl⟩ :=
    isWhole_and_wholePart_iff.mpr ⟨hexponent, exactValue_eq_intCast_iff.mpr hunits⟩
  exact if_pos ⟨hwhole, hlow, hhigh⟩

/-- A double outside this range is not. -/
theorem integerOfDouble_of_beyond {x : Binary64}
    (h : x.units < Int64.minValue.toInt * unitsPerOne ∨
      (Int64.maxValue.toInt + 1) * unitsPerOne < x.units) :
    integerOfDouble x = .error (.invalidValue (.notIntegerNumber x)) := by
  refine if_neg fun hword => ?_
  obtain ⟨hwhole, hlow, hhigh⟩ := hword
  obtain ⟨-, hvalue⟩ := isWhole_and_wholePart_iff.mp ⟨hwhole, rfl⟩
  have hones : (0 : ℤ) ≤ unitsPerOne := Int.natCast_nonneg _
  rw [exactValue_eq_intCast_iff.mp hvalue] at h
  rcases h with h | h
  · exact absurd (Int.mul_le_mul_of_nonneg_right hlow hones) (not_le.mpr h)
  · exact absurd (Int.mul_le_mul_of_nonneg_right hhigh hones) (not_le.mpr h)

/-- **The double nearest to an integer that is no word** is cast to the word nearest to the integer,
if the integer is at most 1024 from the words with one more above them. -/
theorem integerOfDouble_ofInt {n : ℤ} (hn : ¬ FitsInt64 n) :
    integerOfDouble (ofInt n) =
      if n.natAbs ≤ 2 ^ 63 + 1024 then .ok (.ofIntClamp n)
      else .error (.invalidValue (.notIntegerNumber (ofInt n))) := by
  have hmin : Int64.minValue.toInt = -2 ^ 63 := by decide
  have hmax : Int64.maxValue.toInt = 2 ^ 63 - 1 := by decide
  unfold FitsInt64 at hn
  rw [hmin, hmax] at hn
  split_ifs with hnear
  · have hfinite : (ofInt n).isFinite = true := isFinite_ofInt (by omega)
    rcases lt_or_ge n 0 with hneg | hpos
    · have hunits : (ofInt n).units = (-2 ^ 63 : ℤ) * unitsPerOne := by
        refine le_antisymm ?_ ?_
        · calc (ofInt n).units ≤ (ofInt (-2 ^ 63)).units := units_ofInt_mono (by omega)
            _ = _ := by decide +kernel
        · calc (-2 ^ 63 : ℤ) * unitsPerOne = (ofInt (-2 ^ 63 - 1024)).units := by decide +kernel
            _ ≤ _ := units_ofInt_mono (by omega)
      rw [integerOfDouble_of_units hfinite hunits (by omega) (by omega)]
      unfold Int64.ofIntClamp
      rw [dif_neg (show ¬ Int64.minValue.toInt ≤ n by omega)]
      rfl
    · have hunits : (ofInt n).units = (2 ^ 63 : ℤ) * unitsPerOne := by
        refine le_antisymm ?_ ?_
        · calc (ofInt n).units ≤ (ofInt (2 ^ 63 + 1024)).units := units_ofInt_mono (by omega)
            _ = _ := by decide +kernel
        · calc (2 ^ 63 : ℤ) * unitsPerOne = (ofInt (2 ^ 63)).units := by decide +kernel
            _ ≤ _ := units_ofInt_mono (by omega)
      rw [integerOfDouble_of_units hfinite hunits (by omega) (by omega)]
      unfold Int64.ofIntClamp
      rw [dif_pos (show Int64.minValue.toInt ≤ n by omega),
        dif_neg (show ¬ n ≤ Int64.maxValue.toInt by omega)]
      rfl
  · refine integerOfDouble_of_beyond ?_
    rw [hmin, hmax]
    rcases lt_or_ge n 0 with hneg | hpos
    · refine .inl ?_
      calc (ofInt n).units ≤ (ofInt (-2 ^ 63 - 1025)).units := units_ofInt_mono (by omega)
        _ < _ := by decide +kernel
    · refine .inr ?_
      calc ((2 ^ 63 - 1 : ℤ) + 1) * unitsPerOne < (ofInt (2 ^ 63 + 1025)).units := by decide +kernel
        _ ≤ _ := units_ofInt_mono (by omega)

/-! ## Numerals -/

namespace ColumnType

open Text

/-- **A numeral is cast to the integer that it denotes.**  A text that is an integer numeral once
trimmed, of whatever length, is cast to its integer if that is a word; if it is not, then to the
word nearest to it where the two are at most 1024 apart, with one more above the words, and refused
as no integer everywhere else.  A column of integers is compared with it in the same way. -/
theorem cast_numeral {s : String} {n : ℤ} (h : Numeral (trimChars s.toList) n) :
    integer.castComparand (.text s) = integer.cast (.text s) ∧
    integer.cast (.text s) =
      if FitsInt64 n then .ok (.integer (.ofInt n))
      else if n.natAbs ≤ 2 ^ 63 + 1024 then .ok (.integer (.ofIntClamp n))
      else .error (.invalidValue (.notIntegerNumber (ofInt n))) := by
  have hread := numeral_iff.mp h
  refine ⟨castComparand_text fun x hx => isFractional_of_readInteger? hread hx, ?_⟩
  show (integerOfText s).map Value.integer = _
  unfold integerOfText
  dsimp only
  rw [hread, Option.bind_some]
  unfold int64?
  by_cases hfits : FitsInt64 n
  · rw [if_pos hfits, if_pos hfits]
    rfl
  · have hzero : n ≠ 0 := by
      rintro rfl
      exact hfits (by decide)
    rw [if_neg hfits, if_neg hfits, read?_of_numeral h hzero]
    dsimp only
    rw [integerOfDouble_ofInt hfits]
    split <;> rfl

/-- The least word, written with blanks and a zero, and an integer far enough above the words. -/
theorem cast_numeral_ends :
    integer.cast (.text "\t-09223372036854775808 ") = .ok (.integer Int64.minValue) ∧
      integer.castComparand (.text "+9223372036854776833") =
        .error (.invalidValue (.notIntegerNumber (ofInt 9223372036854776833))) := by
  have hleast : Numeral (trimChars "\t-09223372036854775808 ".toList) (-9223372036854775808) :=
    numeral_iff.mpr (by decide +kernel)
  have habove : Numeral (trimChars "+9223372036854776833".toList) 9223372036854776833 :=
    numeral_iff.mpr (by decide +kernel)
  obtain ⟨-, hleastCast⟩ := cast_numeral hleast
  obtain ⟨hcompared, haboveCast⟩ := cast_numeral habove
  refine ⟨?_, ?_⟩
  · rw [hleastCast, if_pos (by decide)]
    rfl
  · rw [hcompared, haboveCast, if_neg (by decide), if_neg (by decide)]

/-- The integer before the least word is cast to the least word, and compared as if it were it. -/
theorem cast_numeral_beforeLeast :
    let s := "-9223372036854775809"
    Numeral (trimChars s.toList) (-9223372036854775809) ∧ ¬ FitsInt64 (-9223372036854775809) ∧
      integer.cast (.text s) = .ok (.integer Int64.minValue) ∧
      integer.castComparand (.text s) = .ok (.integer Int64.minValue) ∧
      ¬ ∀ s n, Numeral (trimChars s.toList) n → ¬ FitsInt64 n →
        ∃ cause, integer.cast (.text s) = .error (.invalidValue cause) := by
  intro s
  have hnumeral : Numeral (trimChars s.toList) (-9223372036854775809) :=
    numeral_iff.mpr (by decide +kernel)
  have hfits : ¬ FitsInt64 (-9223372036854775809) := by decide
  have hcast : integer.cast (.text s) = .ok (.integer Int64.minValue) := by decide +kernel
  refine ⟨hnumeral, hfits, hcast, by decide +kernel, fun h => ?_⟩
  obtain ⟨cause, hcause⟩ := h s _ hnumeral hfits
  exact nomatch hcast.symm.trans hcause

end ColumnType

end RelStore
