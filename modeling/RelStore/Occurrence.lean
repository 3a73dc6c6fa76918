/-!
# First occurrences

Three stages look at which elements of a list repeat an earlier one: distinct rows and groups keep
the first element of each key, the uniqueness of keys and names asks for the first element that is
a repetition.
-/

namespace RelStore

universe u v

variable {α : Type u} {β : Type v} [DecidableEq β]

/-- The elements whose key no earlier element has, in their order. -/
def firstBy (key : α → β) : List α → List α
  | [] => []
  | a :: l => a :: (firstBy key l).filter fun b => key b ≠ key a

/-- The first element that is among `seen` or earlier in the list. -/
def firstRepeatAmong? (seen : List β) : List β → Option β
  | [] => none
  | b :: l => if b ∈ seen then some b else firstRepeatAmong? (b :: seen) l

/-- The first element that occurs earlier in the list. -/
def firstRepeat? (l : List β) : Option β :=
  firstRepeatAmong? [] l

/-! ## First elements of their key -/

theorem mem_of_mem_firstBy {key : α → β} {a : α} {l : List α} (h : a ∈ firstBy key l) : a ∈ l := by
  induction l with
  | nil => simp [firstBy] at h
  | cons b l ih =>
    rcases List.mem_cons.1 h with rfl | h
    · exact List.mem_cons_self
    · exact List.mem_cons_of_mem _ (ih (List.mem_filter.1 h).1)

/-- Every key of the list is the key of an element kept. -/
theorem exists_mem_firstBy {key : α → β} {a : α} {l : List α} (h : a ∈ l) :
    ∃ b ∈ firstBy key l, key b = key a := by
  induction l with
  | nil => simp at h
  | cons c l ih =>
    by_cases hkey : key c = key a
    · exact ⟨c, List.mem_cons_self, hkey⟩
    · rcases List.mem_cons.1 h with rfl | h
      · exact absurd rfl hkey
      · obtain ⟨b, hb, hba⟩ := ih h
        refine ⟨b, List.mem_cons_of_mem _ (List.mem_filter.2 ⟨hb, ?_⟩), hba⟩
        simpa [hba] using fun h => hkey h.symm

/-- No two elements kept have one key. -/
theorem pairwise_firstBy (key : α → β) (l : List α) :
    (firstBy key l).Pairwise fun a b => key a ≠ key b := by
  induction l with
  | nil => exact .nil
  | cons a l ih =>
    refine List.pairwise_cons.2 ⟨fun b hb => ?_, ih.filter _⟩
    have := (List.mem_filter.1 hb).2
    exact fun h => by simp [h] at this

/-- The elements kept stand in their old order. -/
theorem firstBy_sublist (key : α → β) (l : List α) : (firstBy key l).Sublist l := by
  induction l with
  | nil => exact .slnil
  | cons a l ih => exact (List.filter_sublist.trans ih).cons_cons a

/-! ## Repetitions -/

theorem firstRepeatAmong?_eq_none_iff {seen l : List β} :
    firstRepeatAmong? seen l = none ↔ l.Nodup ∧ ∀ b ∈ l, b ∉ seen := by
  induction l generalizing seen with
  | nil => simp [firstRepeatAmong?]
  | cons b l ih =>
    simp only [firstRepeatAmong?]
    split
    next h => simp [h]
    next h =>
      simp only [ih, List.nodup_cons, List.mem_cons, not_or, forall_eq_or_imp]
      constructor
      · rintro ⟨hnodup, hne⟩
        exact ⟨⟨fun hb => (hne b hb).1 rfl, hnodup⟩, h, fun c hc => (hne c hc).2⟩
      · rintro ⟨⟨hb, hnodup⟩, -, hne⟩
        exact ⟨hnodup, fun c hc => ⟨fun heq => hb (heq ▸ hc), hne c hc⟩⟩

/-- Nothing is repeated exactly in a list without duplicates. -/
theorem firstRepeat?_eq_none_iff {l : List β} : firstRepeat? l = none ↔ l.Nodup := by
  simp [firstRepeat?, firstRepeatAmong?_eq_none_iff]

/-- What is found to be a repetition is in the list, twice if not among those seen before. -/
theorem count_of_firstRepeatAmong? {seen l : List β} {b : β}
    (h : firstRepeatAmong? seen l = some b) : b ∈ l ∧ (b ∈ seen ∨ 2 ≤ l.count b) := by
  induction l generalizing seen with
  | nil => simp [firstRepeatAmong?] at h
  | cons c l ih =>
    simp only [firstRepeatAmong?] at h
    split at h
    next hseen =>
      obtain rfl := Option.some.inj h
      exact ⟨List.mem_cons_self, .inl hseen⟩
    next hseen =>
      obtain ⟨hmem, hcount⟩ := ih h
      refine ⟨List.mem_cons_of_mem c hmem, ?_⟩
      by_cases heq : b = c
      · -- the element at the head is repeated by the one in the rest
        subst heq
        have : 0 < l.count b := List.count_pos_iff.2 hmem
        right
        rw [List.count_cons_self]
        omega
      · have hne : c ≠ b := fun h => heq h.symm
        rw [List.count_cons_of_ne hne]
        exact hcount.imp_left fun hmem => (List.mem_cons.1 hmem).resolve_left heq

/-- The element named as a repetition occurs twice. -/
theorem two_le_count_of_firstRepeat? {l : List β} {b : β} (h : firstRepeat? l = some b) :
    2 ≤ l.count b :=
  (count_of_firstRepeatAmong? h).2.resolve_left List.not_mem_nil

end RelStore
