import RelStore.Proofs.Grammar.WellFormed
import RelStore.Proofs.Value.Plain
import RelStore.Value.Cast

/-!
# No cast makes a quote

Texts cannot have a quote in them when they are read, and a value cast to a text is written with
digits, signs, a point and letters.  So whatever is cast from literals has no quote in it either
(`unquoted_of_cast`).
-/

namespace RelStore

/-- The text of a value without quotes has no quote. -/
theorem Value.quote_notMem_toText {v : Value} (h : v.Unquoted) : '\'' ∉ v.toText.toList := by
  by_cases htext : ∃ s, v = .text s
  · obtain ⟨s, rfl⟩ := htext
    exact h
  · -- a quote is no character of the other values
    intro hmem
    have hplain := Value.plain_toText (fun s heq => htext ⟨s, heq⟩) _ hmem
    exact absurd hplain (by decide)

/-- Only a text can have a quote in it. -/
theorem Value.unquoted_of_holds {type : ColumnType} {v : Value} (h : type.Holds v)
    (htype : type ≠ .text) : v.Unquoted := by
  cases v with
  | text s => cases type <;> first | exact absurd rfl htype | exact h.elim
  | _ => trivial

/-- **What is cast from a value without quotes has no quote.** -/
theorem ColumnType.unquoted_of_cast {type : ColumnType} {v w : Value} (h : type.cast v = .ok w)
    (hv : v.Unquoted) : w.Unquoted := by
  -- only a text column can hold a quote
  by_cases htype : type = .text
  · subst htype
    cases v <;> cases h <;> first | trivial | exact Value.quote_notMem_toText hv
  · exact Value.unquoted_of_holds (holds_of_cast h) htype

end RelStore
