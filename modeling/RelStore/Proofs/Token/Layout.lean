import RelStore.Proofs.Token.Spelling
import RelStore.Token.Lexeme

/-!
# Reading what was laid out

`Written ts cs` says that the characters are spellings of the tokens in order, with blanks before,
between and after them wherever one likes, as long as no spelling goes on with what follows it.
Such characters are read as those tokens and nothing else (`ofChars_eq`).

Both layouts of lexemes write their tokens in this sense, so a text that is laid out is read as
the tokens of its lexemes (`ofText_layOut`).
-/

namespace RelStore

open Text

/-- The characters spell the tokens, blanks apart. -/
inductive Written : List Token → List Char → Prop
  | nil {gap : List Char} (hgap : ∀ c ∈ gap, isBlank c = true) : Written [] gap
  /-- A spelling after blanks is the first token if it does not go on. -/
  | cons {t : Token} {ts : List Token} {gap cs rest : List Char}
      (hgap : ∀ c ∈ gap, isBlank c = true) (hspells : Spells t cs)
      (hrest : ∀ d ∈ rest.head?, t.extendedBy d = false) (hwritten : Written ts rest) :
      Written (t :: ts) (gap ++ (cs ++ rest))

/-! ## Reading -/

/-- A spelling begins with a character that is no blank. -/
theorem Spells.exists_cons {t : Token} {cs : List Char} (h : Spells t cs) :
    ∃ c tail, cs = c :: tail ∧ isBlank c = false := by
  have hword : ∀ {cs}, isWord cs = true → ∃ c tail, cs = c :: tail ∧ isBlank c = false := by
    intro cs hcs
    cases cs with
    | nil => contradiction
    | cons c tail =>
        refine ⟨c, tail, rfl, ?_⟩
        rw [← Bool.not_eq_true]
        intro hblank
        have hc := continuesWord_of_mem hcs List.mem_cons_self
        rw [(notInToken_of_isBlank hblank).1] at hc
        contradiction
  have hdigits : ∀ {digits rest : List Char}, isDigits digits = true →
      ∃ c tail, digits ++ rest = c :: tail ∧ isBlank c = false := by
    intro digits rest hdigits
    cases digits with
    | nil => contradiction
    | cons c tail =>
        refine ⟨c, tail ++ rest, rfl, ?_⟩
        rw [← Bool.not_eq_true]
        intro hblank
        have hc := Token.forall_isDigit_of_isDigits hdigits c List.mem_cons_self
        rw [(notInToken_of_isBlank hblank).2.1] at hc
        contradiction
  cases h with
  | keyword h => exact hword (Keyword.isWord_of_equalsIgnoreCase h)
  | word h _ => exact hword h
  | text _ => exact ⟨_, _, rfl, by decide⟩
  | @whole digits h =>
      rw [← digits.toList.append_nil]
      exact hdigits h
  | fraction h _ => exact hdigits h
  | @symbol s => cases s <;> exact ⟨_, _, rfl, by decide⟩

namespace TokenStream

theorem ofChars_of_dropWhile_eq_nil {cs : List Char} (h : cs.dropWhile isBlank = []) :
    ofChars cs = ⟨[], none⟩ := by
  rw [ofChars]
  split
  next => rfl
  next heq => rw [h] at heq; contradiction

theorem ofChars_of_take_eq_ok {c : Char} {cs rest rest' : List Char} {t : Token}
    (h : cs.dropWhile isBlank = c :: rest) (htake : Token.take c rest = .ok (t, rest')) :
    ofChars cs = cons t (ofChars rest') := by
  rw [ofChars]
  split
  next heq => rw [h] at heq; contradiction
  next c' tail heq =>
    rw [h] at heq
    cases heq
    split
    next heq => rw [htake] at heq; contradiction
    next heq =>
      rw [htake] at heq
      cases heq
      rfl

/-- The spelling of a token in front is read as the token, if the rest does not go on with it. -/
theorem ofChars_append_of_spells {t : Token} {cs rest : List Char} (h : Spells t cs)
    (hrest : ∀ d ∈ rest.head?, t.extendedBy d = false) :
    ofChars (cs ++ rest) = cons t (ofChars rest) := by
  obtain ⟨c, tail, rfl, hc⟩ := h.exists_cons
  have hdrop : (c :: tail ++ rest).dropWhile isBlank = c :: (tail ++ rest) := by
    rw [List.cons_append, List.dropWhile_cons_of_neg (by simp [hc])]
  exact ofChars_of_take_eq_ok hdrop (Token.take_eq_ok h hrest)

/-- **Characters that spell tokens are read as these.** -/
theorem ofChars_eq {ts : List Token} {cs : List Char} (h : Written ts cs) :
    ofChars cs = ⟨ts, none⟩ := by
  induction h with
  | @nil gap hgap =>
      refine ofChars_of_dropWhile_eq_nil ?_
      rw [← gap.append_nil, dropWhile_append_of_head hgap (by simp)]
  | @cons t ts gap cs rest hgap hspells hrest _ ih =>
      obtain ⟨c, tail, rfl, hc⟩ := hspells.exists_cons
      have hdrop : (gap ++ (c :: tail ++ rest)).dropWhile isBlank = c :: (tail ++ rest) :=
        dropWhile_append_of_head hgap fun d hd => by cases hd; exact hc
      rw [ofChars_of_take_eq_ok hdrop (Token.take_eq_ok hspells hrest), ih]
      rfl

end TokenStream

/-! ## Laying out -/

theorem Written.cons_blank {ts : List Token} {c : Char} {cs : List Char} (hc : isBlank c = true)
    (h : Written ts cs) : Written ts (c :: cs) := by
  have hgaps : ∀ {gap : List Char}, (∀ d ∈ gap, isBlank d = true) →
      ∀ d ∈ c :: gap, isBlank d = true :=
    fun hgap => List.forall_mem_cons.mpr ⟨hc, hgap⟩
  cases h with
  | nil hgap => exact .nil (hgaps hgap)
  | cons hgap hspells hrest hwritten => exact .cons (hgaps hgap) hspells hrest hwritten

namespace Lexeme

/-- The lexeme is written with a spelling of its token. -/
def Spelled (l : Lexeme) : Prop :=
  Spells l.token l.written.toList

/-- The layout leaves no lexeme next to one that begins with more of it. -/
def Separates (apart : Lexeme → Lexeme → Bool) : Prop :=
  ∀ l next, apart l next = false → ∀ c ∈ next.written.toList.head?, l.token.extendedBy c = false

theorem separates_standsApart : Separates standsApart := by
  intro l next h c _
  have hminus : l = symbol .minus := by simpa [standsApart] using h
  rw [hminus]
  rfl

/-- A closing parenthesis and a comma end every token. -/
theorem extendedBy_closing {c : Char} (h : c = ')' ∨ c = ',') (t : Token) :
    t.extendedBy c = false := by
  have hword : continuesWord c = false := by rcases h with rfl | rfl <;> decide
  have hother : c.isDigit = false ∧ c ≠ '.' ∧ c ≠ '=' := by rcases h with rfl | rfl <;> decide
  unfold Token.extendedBy
  split <;> simp [hword, hother]

theorem separates_standsApartTight : Separates standsApartTight := by
  intro l next h c hc
  simp only [standsApartTight, Bool.and_eq_false_iff, bne_eq_false_iff_eq] at h
  rcases h with ((h | rfl) | rfl) | rfl
  · exact separates_standsApart l next h c hc
  · rfl
  · obtain rfl : ')' = c := Option.some.inj hc
    exact extendedBy_closing (.inl rfl) _
  · obtain rfl : ',' = c := Option.some.inj hc
    exact extendedBy_closing (.inr rfl) _

/-- Lexemes that are laid out spell their tokens. -/
theorem written_layOut {apart : Lexeme → Lexeme → Bool} (hapart : Separates apart)
    {ls : List Lexeme} (h : ∀ l ∈ ls, l.Spelled) :
    Written (ls.map Lexeme.token) (layOut apart ls).toList := by
  induction ls using layOut.induct with
  | case1 => exact .nil nofun
  | case2 l =>
      have hwritten : Written [l.token] ([] ++ (l.written.toList ++ [])) :=
        .cons nofun (h l List.mem_cons_self) (by simp) (.nil nofun)
      rwa [List.nil_append, List.append_nil] at hwritten
  | case3 l next rest ih =>
      have htail := ih fun other hother => h other (List.mem_cons_of_mem _ hother)
      obtain ⟨c, tail, hnext, -⟩ := (h next (by simp)).exists_cons
      obtain ⟨tail', hhead⟩ : ∃ tail', (layOut apart (next :: rest)).toList = c :: tail' := by
        cases rest <;> simp [layOut, hnext]
      simp only [layOut, String.toList_append]
      rw [List.append_assoc, ← List.nil_append (l.written.toList ++ _)]
      refine .cons nofun (h l List.mem_cons_self) ?_ ?_
      · intro d hd
        -- a space ends every spelling, and without one the layout separates the two
        cases hapart' : apart l next with
        | true =>
            rw [hapart', hhead] at hd
            obtain rfl : ' ' = d := by simpa using hd
            exact extendedBy_of_isBlank (by decide) _
        | false =>
            rw [hapart', hhead] at hd
            exact hapart l next hapart' d (by simpa [hnext] using hd)
      · cases apart l next with
        | true => exact .cons_blank (by decide) htail
        | false => exact htail

/-- **A text that is laid out is read as the tokens of its lexemes.** -/
theorem ofText_layOut {apart : Lexeme → Lexeme → Bool} (hapart : Separates apart)
    {ls : List Lexeme} (h : ∀ l ∈ ls, l.Spelled) :
    TokenStream.ofText (layOut apart ls) = ⟨ls.map Lexeme.token, none⟩ :=
  TokenStream.ofChars_eq (written_layOut hapart h)

end Lexeme

end RelStore
