/-!
# Integers of 64 bits

Stored integers are the signed words from -2^63 to 2^63 - 1.  A number computed elsewhere becomes
one only if it fits.
-/

namespace RelStore

/-- Whether the integer is a signed word of 64 bits. -/
def FitsInt64 (n : Int) : Prop :=
  Int64.minValue.toInt ≤ n ∧ n ≤ Int64.maxValue.toInt

instance (n : Int) : Decidable (FitsInt64 n) :=
  inferInstanceAs (Decidable (Int64.minValue.toInt ≤ n ∧ n ≤ Int64.maxValue.toInt))

/-- The word that stands for the integer, if there is one. -/
def int64? (n : Int) : Option Int64 :=
  if FitsInt64 n then some (Int64.ofInt n) else none

/-- The sum of two words, if it is a word again. -/
def addInt64? (a b : Int64) : Option Int64 :=
  int64? (a.toInt + b.toInt)

theorem fitsInt64_toInt (i : Int64) : FitsInt64 i.toInt :=
  ⟨i.minValue_le_toInt, i.toInt_le⟩

/-- A word that was found denotes the integer it was asked for. -/
theorem toInt_of_int64?_eq_some {n : Int} {i : Int64} (h : int64? n = some i) : i.toInt = n := by
  simp only [int64?] at h
  split at h
  next hfits =>
    obtain rfl := Option.some.inj h
    have hlow : Int64.minValue.toInt = -9223372036854775808 := by decide
    have hhigh : Int64.maxValue.toInt = 9223372036854775807 := by decide
    have hfits : Int64.minValue.toInt ≤ n ∧ n ≤ Int64.maxValue.toInt := hfits
    exact Int64.toInt_ofInt_of_le (by omega) (by omega)
  next => contradiction

@[simp] theorem int64?_toInt (i : Int64) : int64? i.toInt = some i := by
  simp [int64?, fitsInt64_toInt]

theorem int64?_eq_none_iff {n : Int} : int64? n = none ↔ ¬ FitsInt64 n := by
  simp [int64?]

end RelStore
