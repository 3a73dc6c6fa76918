import RelStore.Proofs.Binary64.Exact
import RelStore.Proofs.Result
import RelStore.Value.Cast

/-!
# Doubles cast to integers

A double is cast to an integer just if it is finite and the number that its bits mean is a word of
64 bits, and then to that number.  One double more is let through: the bound that it is compared
with is the greatest word as a double, and that is `2^63`, because the greatest word has no double
of its own.  It is cast to the greatest word, which it does not mean
(`ColumnType.cast_float_pastGreatest`).

| double | cast to |
| --- | --- |
| a whole number from `-2^63` to `2^63 - 1` | itself |
| `2^63` | `2^63 - 1` |
| any other | no integer |
-/

namespace RelStore

variable {x : Binary64} {i : Int64}

theorem integerOfDouble_eq_ok_iff : integerOfDouble x = .ok i ↔
    x.exponentField ≠ 2047 ∧
      (x.exactValue = i.toInt ∨ x.exactValue = 2 ^ 63 ∧ i = Int64.maxValue) := by
  have hmax : Int64.maxValue.toInt = 2 ^ 63 - 1 := by decide
  have hmin : Int64.minValue.toInt = -2 ^ 63 := by decide
  unfold integerOfDouble
  constructor
  · intro h
    split at h
    next hword =>
      obtain ⟨hwhole, hlow, hhigh⟩ := hword
      obtain rfl := Except.ok.inj h
      obtain ⟨hfinite, hvalue⟩ := Binary64.isWhole_and_wholePart_iff.mp ⟨hwhole, rfl⟩
      refine ⟨hfinite, ?_⟩
      by_cases hword : x.wholePart ≤ Int64.maxValue.toInt
      · left
        rw [hvalue, Int64.toInt_ofIntClamp hlow hword]
      · right
        have hpast : x.wholePart = 2 ^ 63 := by omega
        constructor
        · rw [hvalue, hpast]
          norm_num
        · unfold Int64.ofIntClamp
          rw [dif_pos hlow, dif_neg hword]
    next => contradiction
  · rintro ⟨hfinite, hvalue | ⟨hvalue, rfl⟩⟩
    · obtain ⟨hwhole, hpart⟩ := Binary64.isWhole_and_wholePart_iff.mpr ⟨hfinite, hvalue⟩
      have hlow := i.minValue_le_toInt
      have hhigh := i.toInt_le
      rw [if_pos ⟨hwhole, by omega, by omega⟩, hpart, Int64.ofIntClamp_toInt]
    · have hcast : x.exactValue = ((2 ^ 63 : ℤ) : ℚ) := by
        rw [hvalue]
        norm_num
      obtain ⟨hwhole, hpart⟩ := Binary64.isWhole_and_wholePart_iff.mpr ⟨hfinite, hcast⟩
      rw [if_pos ⟨hwhole, by omega, by omega⟩, hpart]
      rfl

namespace ColumnType

/-- **A double is cast to the integer that it means.**  A double is cast to an integer just if its
exponent is not the last one and the number that its bits mean is the integer, except that the
number `2^63` is cast to the greatest integer.  Every other double is refused as no integer. -/
theorem cast_float (x : Binary64) :
    (∀ i : Int64, integer.cast (.float x) = .ok (.integer i) ↔
      x.exponentField ≠ 2047 ∧
        (x.exactValue = i.toInt ∨ x.exactValue = 2 ^ 63 ∧ i = Int64.maxValue)) ∧
    ((∃ i : Int64, integer.cast (.float x) = .ok (.integer i)) ∨
      integer.cast (.float x) = .error (.invalidValue (.notIntegerNumber x))) := by
  constructor
  · intro i
    rw [← integerOfDouble_eq_ok_iff]
    show (integerOfDouble x).map Value.integer = _ ↔ _
    rw [map_eq_ok_iff]
    simp
  · show (∃ i, (integerOfDouble x).map Value.integer = .ok (.integer i)) ∨
      (integerOfDouble x).map Value.integer = _
    unfold integerOfDouble
    split
    · exact .inl ⟨_, rfl⟩
    · exact .inr rfl

/-- The double `2^63` is no word, and is cast to the word before it. -/
theorem cast_float_pastGreatest :
    let x : Binary64 := ⟨0x43e0000000000000⟩
    integer.cast (.float x) = .ok (.integer Int64.maxValue) ∧
      x.exponentField ≠ 2047 ∧ x.exactValue = 2 ^ 63 ∧
      ¬ ∀ i : Int64, integer.cast (.float x) = .ok (.integer i) ↔
        x.exponentField ≠ 2047 ∧ x.exactValue = i.toInt := by
  intro x
  have hexact : x.exactValue = 2 ^ 63 := by
    have hunits : x.units = (2 ^ 63 : ℤ) * Binary64.unitsPerOne := by decide +kernel
    rw [Binary64.exactValue_eq_intCast_iff.mpr hunits]
    norm_num
  have hcast : integer.cast (.float x) = .ok (.integer Int64.maxValue) := by decide +kernel
  refine ⟨hcast, by decide, hexact, fun h => ?_⟩
  obtain ⟨-, hvalue⟩ := (h Int64.maxValue).mp hcast
  rw [hexact] at hvalue
  have hmax : Int64.maxValue.toInt = 2 ^ 63 - 1 := by decide
  rw [hmax] at hvalue
  norm_num at hvalue

end ColumnType

end RelStore
