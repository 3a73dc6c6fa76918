import RelStore.Proofs.Grammar.WellFormed
import RelStore.Proofs.Token.Lexed
import RelStore.Proofs.Value.Plain

/-!
# Single lines

A text is a single line if it has no line feed and no carriage return.  Names are single lines, and
so is whatever a value is written as unless it is a text; of the tokens of a text, all but quoted
texts are.
-/

namespace RelStore

open Text

/-- The text has no line feed and no carriage return. -/
def Text.SingleLine (s : String) : Prop :=
  ∀ c ∈ s.toList, c ≠ '\n' ∧ c ≠ '\r'

namespace Text

instance (s : String) : Decidable (SingleLine s) :=
  List.decidableBAll (fun c => c ≠ '\n' ∧ c ≠ '\r') s.toList

theorem singleLine_append {s t : String} :
    SingleLine (s ++ t) ↔ SingleLine s ∧ SingleLine t := by
  simp only [SingleLine, String.toList_append, List.forall_mem_append]

theorem SingleLine.append {s t : String} (hs : SingleLine s) (ht : SingleLine t) :
    SingleLine (s ++ t) :=
  singleLine_append.mpr ⟨hs, ht⟩

theorem SingleLine.of_subset {s t : String} (ht : SingleLine t) (h : s.toList ⊆ t.toList) :
    SingleLine s :=
  fun c hc => ht c (h hc)

theorem Plain.singleLine {s : String} (h : Plain s) : SingleLine s := by
  intro c hc
  refine ⟨?_, ?_⟩ <;> rintro rfl <;> exact absurd (h _ hc) (by decide)

theorem singleLine_repr (n : ℕ) : SingleLine n.repr :=
  (plain_repr n).singleLine

end Text

/-- A text of characters that words go on with is a single line. -/
theorem singleLine_of_isWord {s : String} (h : isWord s.toList = true) : SingleLine s := by
  intro c hc
  have hword := continuesWord_of_mem h hc
  refine ⟨?_, ?_⟩ <;> rintro rfl <;> exact absurd hword (by decide +kernel)

theorem IsName.singleLine {s : String} (h : IsName s) : SingleLine s :=
  singleLine_of_isWord h.isWord

theorem IsColumn.singleLine {s : String} (h : IsColumn s) : SingleLine s := by
  cases h with
  | plain hname => exact hname.singleLine
  | qualified hqualifier hname =>
      exact (hqualifier.singleLine.append (by decide)).append hname.singleLine

/-! ## Tokens and values

What is shown of either is a single line unless it is one of some texts. -/

variable (texts : String → Prop)

/-- The token is shown as a single line, or it is one of the texts. -/
def Token.SingleLineUnless (t : Token) : Prop :=
  SingleLine t.toText ∨ ∃ s, t = .text s ∧ texts s

/-- The value is shown as a single line, or it is one of the texts. -/
def Value.SingleLineUnless (v : Value) : Prop :=
  SingleLine v.toText ∨ ∃ s, v = .text s ∧ texts s

variable {texts}

theorem plain_of_isDigit {s : String} (h : ∀ c ∈ s.toList, c.isDigit = true) : Text.Plain s :=
  fun c hc => isPlain_of_isDigit (h c hc)

theorem Keyword.singleLine_spelling (k : Keyword) : SingleLine k.spelling := by
  have hspelling := ofWord?_eq_some_iff.mp (ofWord?_spelling k)
  exact singleLine_of_isWord
    (isWord_of_equalsIgnoreCase (by rw [String.ofList_toList]; exact hspelling))

theorem Symbol.singleLine_spelling (s : Symbol) : SingleLine s.spelling := by
  cases s <;> decide

/-- **Of the tokens of a text only the quoted texts may have line ends in them.** -/
theorem Token.Spellable.singleLineUnless {t : Token} (h : t.Spellable)
    (htexts : ∀ s, t = .text s → texts s) : t.SingleLineUnless texts := by
  obtain ⟨cs, hspells⟩ := h
  cases hspells with
  | @keyword k _ => exact .inl k.singleLine_spelling
  | word hword _ => exact .inl (singleLine_of_isWord hword)
  | @text s _ => exact .inr ⟨s, rfl, htexts s rfl⟩
  | whole h => exact .inl (plain_of_isDigit (Token.forall_isDigit_of_isDigits h)).singleLine
  | fraction h hfraction =>
      refine .inl (Text.Plain.singleLine ?_)
      have hwhole := plain_of_isDigit (Token.forall_isDigit_of_isDigits h)
      exact (hwhole.append (by decide)).append (plain_of_isDigit hfraction)
  | @symbol s => exact .inl s.singleLine_spelling

theorem Value.singleLineUnless_of_ne_text {v : Value} (h : ∀ s, v ≠ .text s) :
    v.SingleLineUnless texts :=
  .inl (Value.plain_toText h).singleLine

theorem Value.singleLineUnless_text {s : String} (h : texts s) :
    (Value.text s).SingleLineUnless texts :=
  .inr ⟨s, rfl, h⟩

end RelStore
