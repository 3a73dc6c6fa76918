import Mathlib.Data.List.TakeWhile
import RelStore.Proofs.Token.Layout

/-!
# What is read was spelled

The token that is taken off a text stands there in one of its spellings, and the text does not go
on with it (`begins_of_take_eq_ok`).  So every token that is read can be spelled, whatever faults
the text has after it; in particular a word that is read is no keyword, and a text that is read has
no quote in it.  A text without a fault is spelled by its tokens from beginning to end
(`written_ofChars`).
-/

namespace RelStore

open Text

theorem notMem_takeWhile {p : Char → Bool} {c : Char} (hc : p c = false) (cs : List Char) :
    c ∉ cs.takeWhile p := by
  intro hmem
  rw [List.mem_takeWhile_imp hmem] at hc
  contradiction

/-- The longest run of characters with a property ends before one without it. -/
theorem eq_false_of_mem_head?_dropWhile {p : Char → Bool} {cs : List Char} {d : Char}
    (hd : d ∈ (cs.dropWhile p).head?) : p d = false := by
  have hhead := List.head?_dropWhile_not p cs
  rw [Option.mem_def.mp hd] at hhead
  exact hhead

/-- The characters begin with a spelling of the token that the rest does not go on with. -/
def Begins (t : Token) (cs rest : List Char) : Prop :=
  ∃ spelled, cs = spelled ++ rest ∧ Spells t spelled ∧
    ∀ d ∈ rest.head?, t.extendedBy d = false

namespace Token

/-- Some characters spell the token. -/
def Spellable (t : Token) : Prop :=
  ∃ cs, Spells t cs

/-! ## Single tokens -/

theorem spells_ofWord {cs : List Char} (h : isWord cs = true) : Spells (ofWord cs) cs := by
  unfold ofWord
  dsimp only
  split
  next k hk => exact .keyword (Keyword.ofWord?_eq_some_iff.mp hk)
  next hk =>
    have hword : Spells (.word (String.ofList cs)) (String.ofList cs).toList :=
      .word (by rwa [String.toList_ofList]) hk
    rwa [String.toList_ofList] at hword

/-- A word or a keyword goes on with what words go on with. -/
theorem extendedBy_ofWord (cs : List Char) (d : Char) :
    (ofWord cs).extendedBy d = continuesWord d := by
  unfold ofWord
  dsimp only
  split <;> rfl

theorem begins_word {c : Char} (hc : startsWord c = true) (cs : List Char) :
    Begins (ofWord (c :: cs.takeWhile continuesWord)) (c :: cs) (cs.dropWhile continuesWord) := by
  refine ⟨c :: cs.takeWhile continuesWord, ?_, spells_ofWord ?_, fun d hd => ?_⟩
  · rw [List.cons_append, List.takeWhile_append_dropWhile]
  · refine Bool.and_eq_true_iff.mpr ⟨hc, List.all_eq_true.mpr ?_⟩
    exact fun d hd => List.mem_takeWhile_imp hd
  · rw [extendedBy_ofWord]
    exact eq_false_of_mem_head?_dropWhile hd

theorem begins_takeNumber {c : Char} (hc : c.isDigit = true) (cs : List Char) :
    Begins (takeNumber (c :: cs)).1 (c :: cs) (takeNumber (c :: cs)).2 := by
  have hwhole : isDigits (String.ofList ((c :: cs).takeWhile Char.isDigit)).toList = true := by
    rw [String.toList_ofList, List.takeWhile_cons_of_pos hc]
    refine Bool.and_eq_true_iff.mpr ⟨rfl, List.all_eq_true.mpr ?_⟩
    intro d hd
    rcases List.mem_cons.mp hd with rfl | hd
    · exact hc
    · exact List.mem_takeWhile_imp hd
  have hsplit := List.takeWhile_append_dropWhile (p := Char.isDigit) (l := c :: cs)
  have hstop : ∀ d ∈ ((c :: cs).dropWhile Char.isDigit).head?, d.isDigit = false :=
    fun d hd => eq_false_of_mem_head?_dropWhile hd
  unfold takeNumber
  dsimp only
  split
  next tail htail =>
    refine ⟨_, ?_, .fraction hwhole ?_, fun d hd => eq_false_of_mem_head?_dropWhile hd⟩
    · rw [String.toList_ofList, String.toList_ofList, List.append_assoc, List.cons_append,
        List.takeWhile_append_dropWhile, ← htail, hsplit]
    · rw [String.toList_ofList]
      exact fun d hd => List.mem_takeWhile_imp hd
  next hpoint =>
    refine ⟨_, ?_, .whole hwhole, fun d hd => ?_⟩
    · rw [String.toList_ofList, hsplit]
    · have hne : d ≠ '.' := by
        rintro rfl
        obtain ⟨tail, htail⟩ := List.head?_eq_some_iff.mp hd
        exact hpoint tail htail
      exact Bool.or_eq_false_iff.mpr ⟨hstop d hd, beq_eq_false_iff_ne.mpr hne⟩

theorem begins_text {cs rest : List Char} {d : Char} (h : cs.dropWhile (· ≠ '\'') = d :: rest) :
    Begins (.text (String.ofList (cs.takeWhile (· ≠ '\'')))) ('\'' :: cs) rest := by
  have hquote : d = '\'' := by
    have hd : d ∈ (cs.dropWhile (· ≠ '\'')).head? := h ▸ rfl
    simpa using eq_false_of_mem_head?_dropWhile hd
  rw [hquote] at h
  refine ⟨_, ?_, .text ?_, fun _ _ => rfl⟩
  · rw [String.toList_ofList, List.cons_append, List.append_assoc, List.singleton_append, ← h,
      List.takeWhile_append_dropWhile]
  · -- a text ends at the first quote
    rw [String.toList_ofList]
    exact notMem_takeWhile (by decide) cs

/-- The longest symbol is taken, so a comparison sign that could go on with `=` does not. -/
theorem begins_takeSymbol? {c : Char} {cs rest : List Char} {s : Symbol}
    (h : takeSymbol? c cs = some (s, rest)) : Begins (.symbol s) (c :: cs) rest := by
  have hlast : ∀ {rest : List Char}, (∀ tail, rest = '=' :: tail → False) →
      ∀ d ∈ rest.head?, (d == '=') = false := by
    intro rest hne d hd
    rw [beq_eq_false_iff_ne]
    rintro rfl
    obtain ⟨tail, htail⟩ := List.head?_eq_some_iff.mp hd
    exact hne tail htail
  unfold takeSymbol? at h
  split at h
  case h_3 hne => cases h; exact ⟨_, rfl, .symbol (s := .greater), hlast hne⟩
  case h_4 hne => cases h; exact ⟨_, rfl, .symbol (s := .less), hlast hne⟩
  case h_13 => contradiction
  all_goals
    cases h
    refine ⟨_, ?_, .symbol, fun _ _ => rfl⟩
    rfl

/-- **What is taken for a token is one of its spellings.** -/
theorem begins_of_take_eq_ok {c : Char} {cs rest : List Char} {t : Token}
    (h : take c cs = .ok (t, rest)) : Begins t (c :: cs) rest := by
  unfold take at h
  split at h
  next hquote =>
    split at h
    · contradiction
    next hdrop =>
      cases h
      exact hquote ▸ begins_text hdrop
  next =>
    split at h
    next hdigit =>
      have hbegins := begins_takeNumber hdigit cs
      rwa [Except.ok.inj h] at hbegins
    next =>
      split at h
      next hstarts =>
        cases h
        exact begins_word hstarts cs
      next =>
        split at h
        next hsymbol =>
          cases h
          exact begins_takeSymbol? hsymbol
        next => contradiction

end Token

namespace TokenStream

/-! ## Whole texts -/

/-- **Every token of a text can be spelled.** -/
theorem spellable_of_mem_ofChars {cs : List Char} {t : Token}
    (h : t ∈ (ofChars cs).tokens) : t.Spellable := by
  fun_induction ofChars cs with
  | case1 => simp at h
  | case2 => simp at h
  | case3 cs c rest hcs token rest' htake ih =>
      rcases List.mem_cons.mp h with rfl | h
      · obtain ⟨spelled, -, hspells, -⟩ := Token.begins_of_take_eq_ok htake
        exact ⟨spelled, hspells⟩
      · exact ih h

/-- **A text without a fault is written with its tokens and nothing else.** -/
theorem written_ofChars {cs : List Char} (h : (ofChars cs).fault = none) :
    Written (ofChars cs).tokens cs := by
  have hgap : ∀ cs : List Char, ∀ c ∈ cs.takeWhile isBlank, isBlank c = true :=
    fun cs c hc => List.mem_takeWhile_imp hc
  fun_induction ofChars cs with
  | case1 cs hcs =>
      rw [← List.takeWhile_append_dropWhile (p := isBlank) (l := cs), hcs, List.append_nil]
      exact .nil (hgap cs)
  | case2 => contradiction
  | case3 cs c rest hcs token rest' htake ih =>
      obtain ⟨spelled, hspelled, hspells, hrest⟩ := Token.begins_of_take_eq_ok htake
      have hwritten : Written (token :: (ofChars rest').tokens)
          (cs.takeWhile isBlank ++ (spelled ++ rest')) :=
        .cons (hgap cs) hspells hrest (ih h)
      rwa [← hspelled, ← hcs, List.takeWhile_append_dropWhile] at hwritten

end TokenStream

end RelStore
