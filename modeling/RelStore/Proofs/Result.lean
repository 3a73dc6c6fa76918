import Mathlib.Data.List.Forall2

/-!
# Results of steps that can fail

A computation in `Except` succeeds when every step of it does.  The lemmas here
take a success apart into the successes of its steps, so that no proof about what
a program answers has to follow its failures.  A failure is traced back to the step
that failed.

| step | succeeds with | when |
| --- | --- | --- |
| `x >>= f` | `b` | `x` does with some `a` and `f a` does with `b` |
| `x.map f` | `b` | `x` does with some `a` of which `b` is the image |
| `l.mapM f` | `bs` | `f` takes the elements of `l` to those of `bs`, one by one |
| `l.forM f` | nothing | `f` succeeds on every element of `l` |
-/

namespace RelStore

variable {ε α β : Type}

@[simp] theorem ok_bind (a : α) (f : α → Except ε β) : (Except.ok a >>= f) = f a := rfl

@[simp] theorem error_bind (e : ε) (f : α → Except ε β) :
    ((Except.error e : Except ε α) >>= f) = .error e := rfl

theorem bind_eq_ok_iff {x : Except ε α} {f : α → Except ε β} {b : β} :
    (x >>= f) = .ok b ↔ ∃ a, x = .ok a ∧ f a = .ok b := by
  cases x <;> simp

theorem map_eq_ok_iff {x : Except ε α} {f : α → β} {b : β} :
    x.map f = .ok b ↔ ∃ a, x = .ok a ∧ f a = b := by
  cases x <;> simp [Except.map]

theorem bind_eq_error_iff {x : Except ε α} {f : α → Except ε β} {e : ε} :
    (x >>= f) = .error e ↔ x = .error e ∨ ∃ a, x = .ok a ∧ f a = .error e := by
  cases x <;> simp

theorem map_eq_error_iff {x : Except ε α} {f : α → β} {e : ε} :
    x.map f = .error e ↔ x = .error e := by
  cases x <;> simp [Except.map]

theorem toOption_eq_some_iff {x : Except ε α} {a : α} : x.toOption = some a ↔ x = .ok a := by
  cases x <;> simp [Except.toOption]

/-- Whether a step succeeds with nothing but what has a property is seen by taking it. -/
instance decidableForallOk {P : α → Prop} [∀ a, Decidable (P a)] :
    (x : Except ε α) → Decidable (∀ a, x = .ok a → P a)
  | .ok a => decidable_of_iff (P a) ⟨fun h _ ha => Except.ok.inj ha ▸ h, fun h => h a rfl⟩
  | .error _ => .isTrue fun _ ha => by contradiction

/-- What follows a step matters for what the step succeeds with. -/
theorem bind_congr_of_eq_ok {x : Except ε α} {f f' : α → Except ε β}
    (h : ∀ a, x = .ok a → f a = f' a) : (x >>= f) = (x >>= f') := by
  cases x with
  | error e => rfl
  | ok a => exact h a rfl

/-- A list is mapped by a step that succeeds on each of its elements. -/
theorem mapM_eq_ok_iff {f : α → Except ε β} {l : List α} {bs : List β} :
    l.mapM f = .ok bs ↔ List.Forall₂ (fun a b => f a = .ok b) l bs := by
  induction l generalizing bs with
  | nil => simp [pure, Except.pure, eq_comm]
  | cons a l ih =>
      rw [List.mapM_cons, bind_eq_ok_iff, List.forall₂_cons_left_iff]
      constructor
      · rintro ⟨b, hb, h⟩
        obtain ⟨rest, hrest, h⟩ := bind_eq_ok_iff.mp h
        exact ⟨b, rest, hb, ih.mp hrest, (Except.ok.inj h).symm⟩
      · rintro ⟨b, rest, hb, hrest, rfl⟩
        exact ⟨b, hb, by rw [ih.mpr hrest]; rfl⟩

/-- A list of one element is mapped by one step. -/
theorem mapM_singleton (f : α → Except ε β) (a : α) : [a].mapM f = (f a).map ([·]) := by
  rw [List.mapM_cons, List.mapM_nil]
  cases f a <;> rfl

/-- Lists of elements that the step answers alike are mapped alike. -/
theorem mapM_congr_forall₂ {f : α → Except ε β} {l l' : List α}
    (h : List.Forall₂ (fun a a' => f a = f a') l l') : l.mapM f = l'.mapM f := by
  induction h with
  | nil => rfl
  | cons ha _ ih => rw [List.mapM_cons, List.mapM_cons, ha, ih]

/-- A list that is not mapped has an element on which the step fails. -/
theorem exists_mem_of_mapM_eq_error {f : α → Except ε β} {l : List α} {e : ε}
    (h : l.mapM f = .error e) : ∃ a ∈ l, f a = .error e := by
  induction l with
  | nil => contradiction
  | cons a l ih =>
      rw [List.mapM_cons] at h
      rcases bind_eq_error_iff.mp h with h | ⟨b, -, h⟩
      · exact ⟨a, List.mem_cons_self, h⟩
      · rcases bind_eq_error_iff.mp h with h | ⟨bs, -, h⟩
        · obtain ⟨a', ha', h⟩ := ih h
          exact ⟨a', List.mem_cons_of_mem a ha', h⟩
        · contradiction

/-- What a list is related to one by one has every element from some element of the list. -/
theorem exists_mem_of_forall₂ {R : α → β → Prop} {l : List α} {bs : List β}
    (h : List.Forall₂ R l bs) {b : β} (hb : b ∈ bs) : ∃ a ∈ l, R a b := by
  induction h with
  | nil => simp at hb
  | cons hab _ ih =>
      rcases List.mem_cons.mp hb with rfl | hb
      · exact ⟨_, List.mem_cons_self, hab⟩
      · obtain ⟨a, ha, hab⟩ := ih hb
        exact ⟨a, List.mem_cons_of_mem _ ha, hab⟩

/-- Lists that are related one by one have related elements at one place. -/
theorem exists_getElem?_of_forall₂ {R : α → β → Prop} {l : List α} {bs : List β}
    (h : List.Forall₂ R l bs) {j : Nat} {a : α} (ha : l[j]? = some a) :
    ∃ b, bs[j]? = some b ∧ R a b := by
  induction h generalizing j with
  | nil => contradiction
  | cons hab _ ih =>
      cases j with
      | zero =>
          cases ha
          exact ⟨_, rfl, hab⟩
      | succ j => exact ih ha

/-- Elements that are all related to some element make a list that theirs is related to one by
one. -/
theorem exists_forall₂ {R : α → β → Prop} {l : List α} (h : ∀ a ∈ l, ∃ b, R a b) :
    ∃ bs, List.Forall₂ R l bs := by
  induction l with
  | nil => exact ⟨[], .nil⟩
  | cons a l ih =>
      obtain ⟨⟨b, hb⟩, hrest⟩ := List.forall_mem_cons.mp h
      obtain ⟨bs, hbs⟩ := ih hrest
      exact ⟨b :: bs, .cons hb hbs⟩

/-- What is related through some element, one by one, is related through a list. -/
theorem exists_forall₂_of_forall₂ {γ : Type} {R : α → β → Prop} {S : α → γ → Prop}
    {T : γ → β → Prop} {l : List α} {bs : List β} (h : List.Forall₂ R l bs)
    (hthrough : ∀ a ∈ l, ∀ b, R a b → ∃ c, S a c ∧ T c b) :
    ∃ cs, List.Forall₂ S l cs ∧ List.Forall₂ T cs bs := by
  induction h with
  | nil => exact ⟨[], .nil, .nil⟩
  | cons hab _ ih =>
      obtain ⟨hhead, hrest⟩ := List.forall_mem_cons.mp hthrough
      obtain ⟨c, hac, hcb⟩ := hhead _ hab
      obtain ⟨cs, hS, hT⟩ := ih hrest
      exact ⟨c :: cs, .cons hac hS, .cons hcb hT⟩

/-- Lists have equal images if their elements do, one by one. -/
theorem map_eq_map_iff_forall₂ {γ : Type} {f : α → γ} {g : β → γ} {l : List α} {bs : List β} :
    l.map f = bs.map g ↔ List.Forall₂ (fun a b => f a = g b) l bs := by
  rw [← List.forall₂_eq_eq_eq, List.forall₂_map_left_iff, List.forall₂_map_right_iff]

/-- Two lists that one list is related to one by one have equal images, if the elements that one
element is related to have. -/
theorem map_eq_map_of_forall₂ {γ δ : Type} {R : α → β → Prop} {S : α → γ → Prop} {l : List α}
    {bs : List β} {cs : List γ} {f : β → δ} {g : γ → δ} (hR : List.Forall₂ R l bs)
    (hS : List.Forall₂ S l cs) (h : ∀ a b c, R a b → S a c → f b = g c) : bs.map f = cs.map g := by
  induction hR generalizing cs with
  | nil =>
      cases hS
      rfl
  | cons hb _ ih =>
      cases hS with
      | cons hc hcs => rw [List.map_cons, List.map_cons, h _ _ _ hb hc, ih hcs]

/-- What is kept of elements that are all kept is related to the list one by one. -/
theorem forall₂_filterMap_id {R : α → Option β → Prop} {S : α → β → Prop} {l : List α}
    {bs : List (Option β)} (h : List.Forall₂ R l bs)
    (hkept : ∀ a ∈ l, ∀ b?, R a b? → ∃ b, b? = some b ∧ S a b) :
    List.Forall₂ S l (bs.filterMap id) := by
  induction h with
  | nil => exact .nil
  | cons hab _ ih =>
      obtain ⟨hhead, hrest⟩ := List.forall_mem_cons.mp hkept
      obtain ⟨b, rfl, hb⟩ := hhead _ hab
      exact .cons hb (ih hrest)

/-- Steps that all succeed make a list of what they answer. -/
theorem mapM_eq_ok_map {f : α → Except ε β} {g : α → β} {l : List α}
    (h : ∀ a ∈ l, f a = .ok (g a)) : l.mapM f = .ok (l.map g) := by
  rw [mapM_eq_ok_iff, List.forall₂_map_right_iff, List.forall₂_same]
  exact h

/-- Judgements that all succeed select as they judge. -/
theorem filterM_eq_ok_filter {f : α → Except ε Bool} {p : α → Bool} {l : List α}
    (h : ∀ a ∈ l, f a = .ok (p a)) : l.filterM f = .ok (l.filter p) := by
  have haux : ∀ (l acc : List α), (∀ a ∈ l, f a = .ok (p a)) →
      List.filterAuxM f l acc = .ok ((l.filter p).reverse ++ acc) := by
    intro l
    induction l with
    | nil => intro acc _; rfl
    | cons a l ih =>
        intro acc h
        obtain ⟨ha, hl⟩ := List.forall_mem_cons.mp h
        show (f a >>= fun b => List.filterAuxM f l (cond b (a :: acc) acc)) = _
        rw [ha, ok_bind, ih _ hl]
        cases hp : p a <;> simp [hp]
  show (List.filterAuxM f l [] >>= fun as => Except.ok as.reverse) = _
  rw [haux l [] h, ok_bind, List.append_nil, List.reverse_reverse]

/-- **Steps taken one after another fail as the first of them that fails.** -/
theorem foldlM_eq_error_iff {f : β → α → Except ε β} {b : β} {l : List α} {e : ε} :
    l.foldlM f b = .error e ↔ ∃ before a after b',
      l = before ++ a :: after ∧ before.foldlM f b = .ok b' ∧ f b' a = .error e := by
  constructor
  · intro h
    induction l generalizing b with
    | nil => contradiction
    | cons a l ih =>
        rcases bind_eq_error_iff.mp h with h | ⟨b', hb', h⟩
        · exact ⟨[], a, l, b, rfl, rfl, h⟩
        · obtain ⟨before, a', after, b'', rfl, hbefore, hfails⟩ := ih h
          exact ⟨a :: before, a', after, b'', rfl, bind_eq_ok_iff.mpr ⟨b', hb', hbefore⟩, hfails⟩
  · rintro ⟨before, a, after, b', rfl, hbefore, hfails⟩
    rw [List.foldlM_append, hbefore, ok_bind, List.foldlM_cons, hfails, error_bind]

theorem optionMapM_some_eq_ok_iff {f : α → Except ε β} {a : α} {b? : Option β} :
    (some a).mapM f = .ok b? ↔ ∃ b, f a = .ok b ∧ some b = b? :=
  map_eq_ok_iff

/-- What an optional element is taken to comes from the element. -/
theorem exists_mem_of_optionMapM {f : α → Except ε β} {a? : Option α} {b? : Option β}
    (h : a?.mapM f = .ok b?) {b : β} (hb : b ∈ b?) : ∃ a ∈ a?, f a = .ok b := by
  cases a? with
  | none =>
      cases h
      contradiction
  | some a =>
      obtain ⟨b', hb', h⟩ := map_eq_ok_iff.mp h
      cases h
      cases hb
      exact ⟨a, rfl, hb'⟩

/-- A step is made for every element when it succeeds on each. -/
theorem forM_eq_ok_iff {f : α → Except ε Unit} {l : List α} :
    l.forM f = .ok () ↔ ∀ a ∈ l, f a = .ok () := by
  induction l with
  | nil => simp [pure, Except.pure]
  | cons a l ih =>
      show (f a >>= fun _ => l.forM f) = .ok () ↔ _
      rw [bind_eq_ok_iff, List.forall_mem_cons, ← ih]
      constructor
      · rintro ⟨_, ha, hl⟩
        exact ⟨ha, hl⟩
      · rintro ⟨ha, hl⟩
        exact ⟨(), ha, hl⟩

/-- What each step of a fold over the list keeps, the whole fold keeps. -/
theorem foldlM_invariant_mem {f : β → α → Except ε β} {l : List α} (P : β → Prop)
    (hstep : ∀ b, ∀ a ∈ l, ∀ b', P b → f b a = .ok b' → P b') {b b' : β} (hb : P b)
    (h : l.foldlM f b = .ok b') : P b' := by
  induction l generalizing b with
  | nil =>
      cases h
      exact hb
  | cons a l ih =>
      rw [List.foldlM_cons] at h
      obtain ⟨next, hnext, h⟩ := bind_eq_ok_iff.mp h
      refine ih (fun b a ha => hstep b a (List.mem_cons_of_mem _ ha)) ?_ h
      exact hstep b a List.mem_cons_self next hb hnext

theorem foldlM_invariant {f : β → α → Except ε β} (P : β → Prop)
    (hstep : ∀ b a b', P b → f b a = .ok b' → P b') {l : List α} {b b' : β} (hb : P b)
    (h : l.foldlM f b = .ok b') : P b' :=
  foldlM_invariant_mem P (fun b a _ => hstep b a) hb h

end RelStore
