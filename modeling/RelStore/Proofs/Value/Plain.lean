import RelStore.Value.Basic

/-!
# What values other than texts are written with

Numbers, truth values and nulls are written with letters, digits, a minus sign and a point.  What
no such character is, a quote or the end of a line, occurs in their texts nowhere.
-/

namespace RelStore

namespace Text

/-- Whether the character is a letter, a digit, a minus sign or a point. -/
def isPlain (c : Char) : Bool :=
  c.isAlphanum || c == '-' || c == '.'

/-- All characters of the text are plain. -/
def Plain (s : String) : Prop :=
  ∀ c ∈ s.toList, isPlain c = true

instance (s : String) : Decidable (Plain s) :=
  List.decidableBAll (isPlain · = true) s.toList

theorem isPlain_of_isDigit {c : Char} (h : c.isDigit = true) : isPlain c = true := by
  simp [isPlain, Char.isAlphanum, h]

theorem Plain.append {s t : String} (hs : Plain s) (ht : Plain t) : Plain (s ++ t) := by
  intro c hc
  rw [String.toList_append] at hc
  exact (List.mem_append.mp hc).elim (hs c) (ht c)

/-! ## Numbers -/

theorem isPlain_of_mem_toDigits {n : Nat} {c : Char} (h : c ∈ Nat.toDigits 10 n) :
    isPlain c = true :=
  isPlain_of_isDigit (Nat.isDigit_of_mem_toDigits (by decide) (by decide) h)

theorem plain_repr (n : Nat) : Plain n.repr := by
  intro c hc
  rw [Nat.toList_repr] at hc
  exact isPlain_of_mem_toDigits hc

theorem plain_integerText (n : Int) : Plain (integerText n) := by
  unfold integerText
  split
  · exact .append (by decide) (plain_repr _)
  · exact plain_repr _

end Text

open Text

theorem mem_of_mem_dropTrailingZeros {c : Char} {cs : List Char} (h : c ∈ dropTrailingZeros cs) :
    c ∈ cs := by
  unfold dropTrailingZeros at h
  rw [List.mem_reverse] at h
  exact List.mem_reverse.mp ((List.dropWhile_suffix _).subset h)

theorem Decimal.plain_toText (d : Decimal) : Text.Plain d.toText := by
  unfold toText
  dsimp only
  split
  · exact plain_repr _
  · split
    · exact plain_repr _
    · refine ((plain_repr _).append (by decide)).append fun c hc => ?_
      rw [String.toList_ofList] at hc
      rcases List.mem_append.mp (mem_of_mem_dropTrailingZeros hc) with hc | hc
      · rw [List.eq_of_mem_replicate hc]
        decide
      · exact isPlain_of_mem_toDigits hc

theorem Binary64.plain_toText (x : Binary64) : Text.Plain x.toText := by
  have hsign : Text.Plain (if x.isNegative then "-" else "") := by
    split <;> decide
  unfold toText
  dsimp only
  split
  · decide
  · split
    · exact hsign.append (by decide)
    · split
      · exact hsign.append (by decide)
      · exact hsign.append (Decimal.plain_toText _)

/-- **Only a text is written with other characters.** -/
theorem Value.plain_toText {v : Value} (h : ∀ s, v ≠ .text s) : Text.Plain v.toText := by
  cases v with
  | null => decide
  | boolean b => cases b <;> decide
  | integer i => exact plain_integerText _
  | float x => exact x.plain_toText
  | text s => exact absurd rfl (h s)

end RelStore
