import RelStore.Token.Stream

/-!
# Words, keywords and names

A word begins as words do and goes on as words do.  It is a keyword if a keyword has its letters,
and then the only one (`ofWord?_eq_some_iff`); keywords are made of ASCII letters, so every spelling
of one is a word.

A name is a word that is no keyword, or a keyword that is not reserved, in lower case.  No
punctuation occurs in a name, so a point always ends one and so does a parenthesis.
-/

namespace RelStore

open Text

/-- Whether the characters are those of a word, keyword or not. -/
def isWord : List Char → Bool
  | [] => false
  | c :: cs => startsWord c && cs.all continuesWord

/-- The texts that tables and columns may be named by. -/
inductive IsName : String → Prop
  /-- A word that is no keyword. -/
  | word {s : String} (hword : isWord s.toList = true) (hkeyword : Keyword.ofWord? s = none) :
      IsName s
  /-- A keyword with a meaning only at certain places, in lower case. -/
  | keyword {k : Keyword} (hk : k.isReserved = false) : IsName k.asName

/-! ## Characters of words -/

theorem continuesWord_of_startsWord {c : Char} (h : startsWord c = true) :
    continuesWord c = true := by
  unfold startsWord at h
  unfold continuesWord
  rcases Bool.or_eq_true_iff.mp h with h | h <;> simp [h]

theorem continuesWord_of_mem {cs : List Char} (h : isWord cs = true) {c : Char} (hc : c ∈ cs) :
    continuesWord c = true := by
  cases cs with
  | nil => simp at hc
  | cons d cs =>
      obtain ⟨hd, hcs⟩ := Bool.and_eq_true_iff.mp h
      rcases List.mem_cons.mp hc with rfl | hc
      · exact continuesWord_of_startsWord hd
      · exact List.all_eq_true.mp hcs c hc

/-- Characters that each could begin a word are one. -/
theorem isWord_of_startsWord {cs : List Char} (hne : cs ≠ [])
    (h : ∀ c ∈ cs, startsWord c = true) : isWord cs = true := by
  cases cs with
  | nil => exact absurd rfl hne
  | cons c cs =>
      refine Bool.and_eq_true_iff.mpr ⟨h c List.mem_cons_self, List.all_eq_true.mpr ?_⟩
      intro d hd
      exact continuesWord_of_startsWord (h d (List.mem_cons_of_mem _ hd))

theorem toNat_of_isUpper {c : Char} (h : c.isUpper = true) : 65 ≤ c.toNat ∧ c.toNat ≤ 90 := by
  obtain ⟨hlow, hhigh⟩ := of_decide_eq_true h
  exact ⟨UInt32.le_iff_toNat_le.mp hlow, UInt32.le_iff_toNat_le.mp hhigh⟩

theorem toNat_of_isLower {c : Char} (h : c.isLower = true) : 97 ≤ c.toNat ∧ c.toNat ≤ 122 := by
  obtain ⟨hlow, hhigh⟩ := Bool.and_eq_true_iff.mp h
  exact ⟨UInt32.le_iff_toNat_le.mp (of_decide_eq_true hlow),
    UInt32.le_iff_toNat_le.mp (of_decide_eq_true hhigh)⟩

theorem toNat_of_isAlpha {c : Char} (h : c.isAlpha = true) :
    (65 ≤ c.toNat ∧ c.toNat ≤ 90) ∨ (97 ≤ c.toNat ∧ c.toNat ≤ 122) :=
  (Bool.or_eq_true_iff.mp h).imp toNat_of_isUpper toNat_of_isLower

theorem toNat_lt_of_isAlpha {c : Char} (h : c.isAlpha = true) : c.toNat < 128 := by
  have hletter := toNat_of_isAlpha h
  omega

theorem startsWord_of_isAlpha {c : Char} (h : c.isAlpha = true) : startsWord c = true := by
  simp [startsWord, isAlphabetic_of_ascii (toNat_lt_of_isAlpha h), h]

theorem isAlpha_of_isUpper_toUpper {c : Char} (h : c.toUpper.isUpper = true) :
    c.isAlpha = true := by
  by_cases hlower : c.isLower = true
  · exact Bool.or_eq_true_iff.mpr (.inr hlower)
  · have hself : c.toUpper = c := dif_neg fun hletter =>
      hlower (Bool.and_eq_true_iff.mpr ⟨decide_eq_true hletter.1, decide_eq_true hletter.2⟩)
    rw [hself] at h
    exact Bool.or_eq_true_iff.mpr (.inl h)

theorem isAlpha_of_isLower_toLower {c : Char} (h : c.toLower.isLower = true) :
    c.isAlpha = true := by
  by_cases hupper : c.isUpper = true
  · exact Bool.or_eq_true_iff.mpr (.inl hupper)
  · have hself : c.toLower = c := dif_neg fun hletter => hupper (decide_eq_true hletter)
    rw [hself] at h
    exact Bool.or_eq_true_iff.mpr (.inr h)

/-! ## Keywords -/

namespace Keyword

theorem ofWord?_congr {s t : String} (h : equalsIgnoreCase s t = Bool.true) :
    ofWord? s = ofWord? t := by
  have hlower := equalsIgnoreCase_eq_true_iff.mp h
  unfold ofWord?
  congr 1
  funext k
  rw [Bool.eq_iff_iff, equalsIgnoreCase_eq_true_iff, equalsIgnoreCase_eq_true_iff, hlower]

theorem ofWord?_spelling (k : Keyword) : ofWord? k.spelling = some k := by
  have hall : ∀ k ∈ all, ofWord? k.spelling = some k := by decide +kernel
  exact hall k (mem_all k)

/-- A word is the keyword that has its letters. -/
theorem ofWord?_eq_some_iff {s : String} {k : Keyword} :
    ofWord? s = some k ↔ equalsIgnoreCase k.spelling s = Bool.true := by
  constructor
  · intro h
    unfold ofWord? at h
    simpa using List.find?_some h
  · intro h
    rw [← ofWord?_congr h, ofWord?_spelling]

theorem ofWord?_asName (k : Keyword) : ofWord? k.asName = some k := by
  rw [ofWord?_eq_some_iff, equalsIgnoreCase_eq_true_iff]
  have hall : ∀ k ∈ all, lowerAscii k.spelling = lowerAscii k.asName := by decide +kernel
  exact hall k (mem_all k)

theorem isLower_of_mem_spelling (k : Keyword) :
    k.spelling.toList.map Char.toLower ≠ [] ∧
      ∀ c ∈ k.spelling.toList.map Char.toLower, c.isLower = Bool.true := by
  have hall : ∀ k ∈ all, k.spelling.toList.map Char.toLower ≠ [] ∧
      (k.spelling.toList.map Char.toLower).all Char.isLower = Bool.true := by decide +kernel
  obtain ⟨hne, hlower⟩ := hall k (mem_all k)
  exact ⟨hne, List.all_eq_true.mp hlower⟩

/-- Every spelling of a keyword is a word. -/
theorem isWord_of_equalsIgnoreCase {k : Keyword} {cs : List Char}
    (h : equalsIgnoreCase k.spelling (String.ofList cs) = Bool.true) : isWord cs = Bool.true := by
  have hchars : k.spelling.toList.map Char.toLower = cs.map Char.toLower := by
    simpa [equalsIgnoreCase] using h
  obtain ⟨hne, hlower⟩ := isLower_of_mem_spelling k
  rw [hchars] at hne hlower
  refine isWord_of_startsWord (by simpa using hne) fun c hc => startsWord_of_isAlpha ?_
  exact isAlpha_of_isLower_toLower (hlower _ (List.mem_map_of_mem hc))

end Keyword

/-! ## Names -/

namespace IsName

variable {s : String}

theorem isWord (h : IsName s) : RelStore.isWord s.toList = true := by
  cases h with
  | word hword _ => exact hword
  | @keyword k _ =>
      have hspelling := Keyword.ofWord?_eq_some_iff.mp (Keyword.ofWord?_asName k)
      exact Keyword.isWord_of_equalsIgnoreCase (by rw [String.ofList_toList]; exact hspelling)

/-- What goes on with no word is in no name. -/
theorem notMem (h : IsName s) {c : Char} (hc : continuesWord c = false) : c ∉ s.toList := by
  intro hmem
  rw [continuesWord_of_mem h.isWord hmem] at hc
  contradiction

end IsName

end RelStore
