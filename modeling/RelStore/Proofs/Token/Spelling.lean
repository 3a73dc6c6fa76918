import RelStore.Proofs.Token.Word

/-!
# How tokens are spelled

`Spells` says which characters a token may be written with.  Reading takes the longest token, so
what follows a spelling must not go on with it (`Token.extendedBy`):

| token | goes on with |
| --- | --- |
| keyword, word | what words go on with |
| whole number | a digit, a point |
| number with a point | a digit |
| `<`, `>` | `=` |
| text, any other symbol | nothing |

Reading a spelling followed by something else yields the token and leaves the rest (`take_eq_ok`).
-/

namespace RelStore

open Text

/-- The characters that the token may be written with. -/
inductive Spells : Token → List Char → Prop
  | keyword {k : Keyword} {cs : List Char}
      (h : equalsIgnoreCase k.spelling (String.ofList cs) = true) : Spells (.keyword k) cs
  | word {s : String} (hword : isWord s.toList = true) (hkeyword : Keyword.ofWord? s = none) :
      Spells (.word s) s.toList
  /-- A text, which has no quote in it, between quotes. -/
  | text {s : String} (h : '\'' ∉ s.toList) : Spells (.text s) ('\'' :: (s.toList ++ ['\'']))
  | whole {digits : String} (h : isDigits digits.toList = true) :
      Spells (.number digits none) digits.toList
  | fraction {digits fraction : String} (h : isDigits digits.toList = true)
      (hfraction : ∀ c ∈ fraction.toList, c.isDigit = true) :
      Spells (.number digits (some fraction)) (digits.toList ++ '.' :: fraction.toList)
  | symbol {s : Symbol} : Spells (.symbol s) s.spelling.toList

/-- Whether the character would be read as more of the token. -/
def Token.extendedBy : Token → Char → Bool
  | keyword _, c => continuesWord c
  | word _, c => continuesWord c
  | text _, _ => false
  | number _ none, c => c.isDigit || c == '.'
  | number _ (some _), c => c.isDigit
  | symbol .greater, c => c == '='
  | symbol .less, c => c == '='
  | symbol _, _ => false

/-! ## Blanks -/

/-- The code points of the blanks. -/
def blankCodes : List Nat :=
  [9, 10, 11, 12, 13, 0x20, 0x85, 0xA0, 0x1680, 0x2000, 0x2001, 0x2002, 0x2003, 0x2004, 0x2005,
    0x2006, 0x2007, 0x2008, 0x2009, 0x200A, 0x2028, 0x2029, 0x202F, 0x205F, 0x3000]

theorem mem_blankCodes {c : Char} (h : isBlank c = true) : c.toNat ∈ blankCodes := by
  simp only [isBlank, Bool.or_eq_true, Bool.and_eq_true, decide_eq_true_eq, beq_iff_eq] at h
  simp only [blankCodes, List.mem_cons]
  omega

private theorem blankCodes_notInToken :
    ∀ n ∈ blankCodes, continuesWord (Char.ofNat n) = false ∧ (Char.ofNat n).isDigit = false ∧
      Char.ofNat n ∉ ['\'', '.', '=', '>', '<', '*', '(', ')', ',', ';', '-'] := by
  decide +kernel

/-- Blanks occur in no token but a quoted text. -/
theorem notInToken_of_isBlank {c : Char} (h : isBlank c = true) :
    continuesWord c = false ∧ c.isDigit = false ∧
      c ∉ ['\'', '.', '=', '>', '<', '*', '(', ')', ',', ';', '-'] := by
  have hc := blankCodes_notInToken c.toNat (mem_blankCodes h)
  rwa [Char.ofNat_toNat] at hc

/-- A blank ends every token. -/
theorem extendedBy_of_isBlank {c : Char} (h : isBlank c = true) (t : Token) :
    t.extendedBy c = false := by
  obtain ⟨hword, hdigit, hother⟩ := notInToken_of_isBlank h
  simp only [List.mem_cons, List.not_mem_nil, or_false, not_or] at hother
  unfold Token.extendedBy
  split <;> simp [hword, hdigit, hother]

/-! ## Taking the longest token -/

section Longest

variable {p : Char → Bool} {cs rest : List Char}

theorem takeWhile_append_of_head (hcs : ∀ c ∈ cs, p c = true)
    (hrest : ∀ c ∈ rest.head?, p c = false) : (cs ++ rest).takeWhile p = cs := by
  rw [List.takeWhile_append_of_pos hcs]
  cases rest with
  | nil => simp
  | cons c rest => simp [hrest c rfl]

theorem dropWhile_append_of_head (hcs : ∀ c ∈ cs, p c = true)
    (hrest : ∀ c ∈ rest.head?, p c = false) : (cs ++ rest).dropWhile p = rest := by
  rw [List.dropWhile_append_of_pos hcs]
  cases rest with
  | nil => simp
  | cons c rest => simp [hrest c rfl]

end Longest

namespace Token

/-! ### Words -/

/-- A word that is read is a keyword if it has the letters of one. -/
theorem ofWord_eq_keyword {k : Keyword} {cs : List Char}
    (h : equalsIgnoreCase k.spelling (String.ofList cs) = true) : ofWord cs = .keyword k := by
  simp only [ofWord, Keyword.ofWord?_eq_some_iff.mpr h]

theorem ofWord_eq_word {s : String} (h : Keyword.ofWord? s = none) :
    ofWord s.toList = .word s := by
  simp only [ofWord, String.ofList_toList, h]

theorem isDigit_eq_false_of_startsWord {c : Char} (h : startsWord c = true) :
    c.isDigit = false := by
  rw [← Bool.not_eq_true]
  intro hdigit
  have hdigits : 48 ≤ c.toNat ∧ c.toNat ≤ 57 := Char.isDigit_iff_toNat.mp hdigit
  unfold startsWord at h
  rw [isAlphabetic_of_ascii (by omega)] at h
  rcases Bool.or_eq_true_iff.mp h with h | h
  · have hletter := toNat_of_isAlpha h
    omega
  · rw [eq_of_beq h] at hdigit
    exact absurd hdigit (by decide)

/-- The characters of a word are taken together. -/
theorem take_of_isWord {c : Char} {cs rest : List Char} (h : isWord (c :: cs) = true)
    (hrest : ∀ d ∈ rest.head?, continuesWord d = false) :
    take c (cs ++ rest) = .ok (ofWord (c :: cs), rest) := by
  obtain ⟨hc, hcs⟩ := Bool.and_eq_true_iff.mp h
  have hquote : c ≠ '\'' := by
    rintro rfl
    exact absurd hc (by decide)
  have hdigit : ¬ c.isDigit = true := by simp [isDigit_eq_false_of_startsWord hc]
  unfold take
  rw [if_neg hquote, if_neg hdigit, if_pos hc,
    takeWhile_append_of_head (List.all_eq_true.mp hcs) hrest,
    dropWhile_append_of_head (List.all_eq_true.mp hcs) hrest]

/-! ### Numbers -/

theorem forall_isDigit_of_isDigits {cs : List Char} (h : isDigits cs = true) :
    ∀ c ∈ cs, c.isDigit = true := by
  obtain ⟨-, hall⟩ := Bool.and_eq_true_iff.mp h
  exact List.all_eq_true.mp hall

theorem take_of_isDigit {c : Char} (h : c.isDigit = true) (cs : List Char) :
    take c cs = .ok (takeNumber (c :: cs)) := by
  have hquote : c ≠ '\'' := by
    rintro rfl
    exact absurd h (by decide)
  unfold take
  rw [if_neg hquote, if_pos h]

theorem takeNumber_whole {digits rest : List Char} (h : ∀ c ∈ digits, c.isDigit = true)
    (hrest : ∀ d ∈ rest.head?, d.isDigit = false ∧ d ≠ '.') :
    takeNumber (digits ++ rest) = (.number (String.ofList digits) none, rest) := by
  have hstop : ∀ d ∈ rest.head?, d.isDigit = false := fun d hd => (hrest d hd).1
  simp only [takeNumber, takeWhile_append_of_head h hstop, dropWhile_append_of_head h hstop]
  split
  next tail => exact absurd rfl (hrest '.' rfl).2
  next => rfl

theorem takeNumber_fraction {digits fraction rest : List Char}
    (h : ∀ c ∈ digits, c.isDigit = true) (hfraction : ∀ c ∈ fraction, c.isDigit = true)
    (hrest : ∀ d ∈ rest.head?, d.isDigit = false) :
    takeNumber (digits ++ '.' :: (fraction ++ rest)) =
      (.number (String.ofList digits) (some (String.ofList fraction)), rest) := by
  have hpoint : ∀ d ∈ ('.' :: (fraction ++ rest)).head?, d.isDigit = false := by
    rintro d ⟨⟩
    decide
  simp only [takeNumber, takeWhile_append_of_head h hpoint, dropWhile_append_of_head h hpoint,
    takeWhile_append_of_head hfraction hrest, dropWhile_append_of_head hfraction hrest]

/-! ### Texts -/

/-- The closing quote is the first one, since the text has none in it. -/
theorem take_text {s : String} (h : '\'' ∉ s.toList) (rest : List Char) :
    take '\'' (s.toList ++ '\'' :: rest) = .ok (.text s, rest) := by
  have hinside : ∀ d ∈ s.toList, decide (d ≠ '\'') = true := by
    intro d hd
    simp only [decide_eq_true_eq]
    rintro rfl
    exact h hd
  have hquote : ∀ d ∈ ('\'' :: rest).head?, decide (d ≠ '\'') = false := by
    rintro d ⟨⟩
    decide
  unfold take
  rw [if_pos rfl, takeWhile_append_of_head hinside hquote,
    dropWhile_append_of_head hinside hquote, String.ofList_toList]

/-! ### Symbols -/

theorem takeSymbol?_comparison {rest : List Char} (h : ∀ d ∈ rest.head?, d ≠ '=') :
    takeSymbol? '>' rest = some (.greater, rest) ∧ takeSymbol? '<' rest = some (.less, rest) := by
  cases rest with
  | nil => exact ⟨rfl, rfl⟩
  | cons d rest => simp [takeSymbol?, h d rfl]

theorem takeSymbol?_eq_some {s : Symbol} {c : Char} {cs rest : List Char}
    (h : c :: cs = s.spelling.toList) (hrest : ∀ d ∈ rest.head?, (symbol s).extendedBy d = false) :
    takeSymbol? c (cs ++ rest) = some (s, rest) := by
  cases s with
  | greater =>
      cases h
      refine (takeSymbol?_comparison fun d hd => ?_).1
      simpa [extendedBy] using hrest d hd
  | less =>
      cases h
      refine (takeSymbol?_comparison fun d hd => ?_).2
      simpa [extendedBy] using hrest d hd
  | _ =>
      cases h
      rfl

/-- **What a token is spelled with is read as the token**, if it does not go on. -/
theorem take_eq_ok {t : Token} {c : Char} {cs rest : List Char} (h : Spells t (c :: cs))
    (hrest : ∀ d ∈ rest.head?, t.extendedBy d = false) : take c (cs ++ rest) = .ok (t, rest) := by
  generalize hspelling : c :: cs = spelling at h
  cases h with
  | keyword h =>
      subst hspelling
      rw [take_of_isWord (Keyword.isWord_of_equalsIgnoreCase h) hrest, ofWord_eq_keyword h]
  | word hword hkeyword =>
      rw [← hspelling] at hword
      rw [take_of_isWord hword hrest, hspelling, ofWord_eq_word hkeyword]
  | text h =>
      cases hspelling
      rw [List.append_assoc, List.singleton_append, take_text h]
  | @whole digits h =>
      have hdigits := forall_isDigit_of_isDigits h
      rw [← hspelling] at hdigits
      have hstop : ∀ d ∈ rest.head?, d.isDigit = false ∧ d ≠ '.' := by
        intro d hd
        simpa [extendedBy] using hrest d hd
      rw [take_of_isDigit (hdigits c List.mem_cons_self), ← List.cons_append,
        takeNumber_whole hdigits hstop, hspelling, String.ofList_toList]
  | @fraction digits fraction h hfraction =>
      have hdigits := forall_isDigit_of_isDigits h
      -- there is a digit before the point
      have hc : c.isDigit = true := by
        cases hlist : digits.toList with
        | nil => simp [hlist, isDigits] at h
        | cons d ds =>
            rw [hlist] at hspelling hdigits
            obtain ⟨rfl, -⟩ := List.cons.inj hspelling
            exact hdigits c List.mem_cons_self
      rw [take_of_isDigit hc, ← List.cons_append, hspelling, List.append_assoc, List.cons_append,
        takeNumber_fraction hdigits hfraction hrest, String.ofList_toList, String.ofList_toList]
  | @symbol s =>
      have hstarts : c ≠ '\'' ∧ c.isDigit = false ∧ startsWord c = false := by
        cases s <;> cases hspelling <;> decide
      unfold take
      rw [if_neg hstarts.1, if_neg (by simp [hstarts.2.1]), if_neg (by simp [hstarts.2.2]),
        takeSymbol?_eq_some hspelling hrest]

end Token

end RelStore
