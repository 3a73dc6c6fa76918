import RelStore.Proofs.Binary64.Whole
import RelStore.Proofs.Store.Row

/-!
# Literals stored and literals compared with

A literal is cast in one way to be stored in a column and in another to be compared with it.  The
two differ only where the literal denotes a fraction and the column is one of integers, and there
the first way fails.  So a literal that may be stored is compared as what it is stored as
(`castComparand_of_cast`), and equals it.
-/

namespace RelStore

theorem Binary64.isFractional_of_isWhole {x : Binary64} (h : x.isWhole = true) :
    x.isFractional = false := by
  obtain ⟨-, hunits⟩ := Bool.and_eq_true_iff.mp h
  unfold isFractional
  rw [hunits, Bool.not_true, Bool.and_false]

/-- A double that denotes an integer has no fraction. -/
theorem isFractional_of_integerOfDouble {x : Binary64} {i : Int64} (h : integerOfDouble x = .ok i) :
    x.isFractional = false := by
  unfold integerOfDouble at h
  split at h
  next hwhole => exact Binary64.isFractional_of_isWhole hwhole.1
  next => contradiction

/-- A text that denotes an integer is read to no fraction, be it an integer numeral or not. -/
theorem isFractional_of_integerOfText {s : String} {i : Int64} (h : integerOfText s = .ok i)
    {x : Binary64} (hx : Binary64.read? (Text.trimChars s.toList) = some x) :
    x.isFractional = false := by
  unfold integerOfText at h
  dsimp only at h
  split at h
  next hinteger =>
    obtain ⟨n, hn, -⟩ := Option.bind_eq_some_iff.mp hinteger
    exact Binary64.isFractional_of_readInteger? hn hx
  next =>
    rw [hx] at h
    exact isFractional_of_integerOfDouble h

namespace ColumnType

variable {type : ColumnType} {v w : Value}

/-- A text that is read to no fraction is compared as what it is cast to. -/
theorem castComparand_text {s : String} (h : ∀ x : Binary64,
    Binary64.read? (Text.trimChars s.toList) = some x → x.isFractional = false) :
    integer.castComparand (.text s) = integer.cast (.text s) := by
  have hnone :
      (Binary64.read? (Text.trimChars s.toList)).filter Binary64.isFractional = none := by
    rw [Option.filter_eq_none_iff]
    intro x hx
    rw [h x hx]
    exact Bool.false_ne_true
  unfold castComparand
  dsimp only
  rw [hnone]

/-- **A literal that may be stored is compared as what it is stored as.** -/
theorem castComparand_of_cast (h : type.cast v = .ok w) : type.castComparand v = .ok w := by
  unfold castComparand
  split
  next x =>
    obtain ⟨i, hi, -⟩ := map_eq_ok_iff.mp h
    rw [isFractional_of_integerOfDouble hi, if_neg Bool.false_ne_true]
    exact h
  next s =>
    obtain ⟨i, hi, -⟩ := map_eq_ok_iff.mp h
    exact (castComparand_text fun x hx => isFractional_of_integerOfText hi hx).trans h
  next => exact h

/-- What a literal is stored as equals the literal. -/
theorem exists_castComparand (h : type.cast v = .ok w) :
    ∃ comparand, type.castComparand v = .ok comparand ∧ w.satisfies .equal comparand = true :=
  ⟨w, castComparand_of_cast h,
    (satisfies_equal_iff (holds_of_cast h) (holds_of_cast h)).mpr rfl⟩

end ColumnType

end RelStore
