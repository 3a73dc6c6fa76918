import RelStore.Occurrence

/-!
# First occurrences and their keys

The elements kept by `firstBy` depend on keys only: keeping the first of each key goes together
with selecting by key and with renaming, and the keys of the elements kept are the keys of the list
with every repetition erased.
-/

namespace RelStore

universe u v w

variable {α : Type u} {β : Type v} {γ : Type w} [DecidableEq β]

theorem firstBy_map (key : γ → β) (f : α → γ) (l : List α) :
    firstBy key (l.map f) = (firstBy (fun a => key (f a)) l).map f := by
  induction l with
  | nil => rfl
  | cons a l ih => simp only [List.map_cons, firstBy, ih, List.filter_map, Function.comp_def]

/-- Keys that tell the same elements apart keep the same elements. -/
theorem firstBy_congr [DecidableEq γ] {key : α → β} {key' : α → γ} {l : List α}
    (h : ∀ a ∈ l, ∀ b ∈ l, key a = key b ↔ key' a = key' b) : firstBy key l = firstBy key' l := by
  induction l with
  | nil => rfl
  | cons a l ih =>
      have hrest : ∀ b ∈ l, ∀ c ∈ l, key b = key c ↔ key' b = key' c := fun b hb c hc =>
        h b (List.mem_cons_of_mem a hb) c (List.mem_cons_of_mem a hc)
      unfold firstBy
      rw [ih hrest]
      refine congrArg (a :: ·) (List.filter_congr fun b hb => ?_)
      have hiff := h b (List.mem_cons_of_mem a (mem_of_mem_firstBy hb)) a List.mem_cons_self
      simp only [ne_eq, hiff]

/-- Elements that are selected by their keys are first of them in the list as they are among
themselves. -/
theorem firstBy_filter (key : α → β) (p : β → Bool) (l : List α) :
    firstBy key (l.filter fun a => p (key a)) = (firstBy key l).filter fun a => p (key a) := by
  induction l with
  | nil => rfl
  | cons a l ih =>
      simp only [List.filter_cons, firstBy]
      by_cases ha : p (key a)
      · rw [if_pos ha, if_pos ha, firstBy, ih, List.filter_filter, List.filter_filter]
        simp only [Bool.and_comm]
      · rw [if_neg ha, if_neg ha, ih, List.filter_filter]
        -- an element that is selected does not have the key of one that is not
        refine List.filter_congr fun b _ => ?_
        by_cases hb : p (key b)
        · have hne : key b ≠ key a := fun heq => ha (heq ▸ hb)
          simp [hb, hne]
        · simp [hb]

/-- Elements that are selected as others of their key are first of them in the list as they are
among themselves. -/
theorem firstBy_filter_of_congr {key : α → β} {p : α → Bool} {l : List α}
    (h : ∀ a ∈ l, ∀ b ∈ l, key a = key b → p a = p b) :
    firstBy key (l.filter p) = (firstBy key l).filter p := by
  classical
  -- the selection is one by keys
  let selected (k : β) : Bool := decide (∃ a ∈ l, key a = k ∧ p a = true)
  have hselected : ∀ a ∈ l, p a = selected (key a) := by
    intro a ha
    rw [Bool.eq_iff_iff, decide_eq_true_iff]
    constructor
    · exact fun hp => ⟨a, ha, rfl, hp⟩
    · rintro ⟨b, hb, hkey, hp⟩
      rw [h a ha b hb hkey.symm]
      exact hp
  rw [List.filter_congr hselected, firstBy_filter]
  exact (List.filter_congr fun a ha => hselected a (mem_of_mem_firstBy ha)).symm

theorem firstBy_id [BEq β] [LawfulBEq β] (l : List β) : firstBy id l = l.eraseDups := by
  induction hn : l.length using Nat.strongRecOn generalizing l with
  | _ n ih =>
      cases l with
      | nil => rfl
      | cons b l =>
          have hlt : (l.filter fun c => c ≠ b).length < n := by
            rw [← hn]
            exact Nat.lt_succ_of_le (List.length_filter_le _ _)
          have hne : (fun c => decide (c ≠ b)) = fun c => !c == b := by
            funext c
            by_cases h : c = b <;> simp [h]
          calc
            firstBy id (b :: l) = b :: (firstBy id l).filter fun c => c ≠ b := rfl
            _ = b :: firstBy id (l.filter fun c => c ≠ b) :=
              congrArg (b :: ·) (firstBy_filter id (fun c => decide (c ≠ b)) l).symm
            _ = b :: (l.filter fun c => c ≠ b).eraseDups := by rw [ih _ hlt _ rfl]
            _ = (b :: l).eraseDups := by rw [List.eraseDups_cons, hne]

/-- **The keys of the elements kept are those of the list, each once.** -/
theorem map_firstBy [BEq β] [LawfulBEq β] (key : α → β) (l : List α) :
    (firstBy key l).map key = (l.map key).eraseDups := by
  rw [← firstBy_id, firstBy_map]
  rfl

/-- What is found to be a repetition depends only on which elements were seen before. -/
theorem firstRepeatAmong?_congr {seen seen' : List β} (h : ∀ b, b ∈ seen ↔ b ∈ seen') (l : List β) :
    firstRepeatAmong? seen l = firstRepeatAmong? seen' l := by
  induction l generalizing seen seen' with
  | nil => rfl
  | cons b l ih =>
      have hcons : ∀ c, c ∈ b :: seen ↔ c ∈ b :: seen' := fun c => by
        rw [List.mem_cons, List.mem_cons, h]
      unfold firstRepeatAmong?
      simp only [h, ih hcons]

end RelStore
