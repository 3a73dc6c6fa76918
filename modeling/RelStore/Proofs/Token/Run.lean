import RelStore.Token.Parser

/-!
# Running parsers on what they read

Equations for runs whose tokens are known to begin in a certain way.  A parser that looks for a
token it does not need is told by the first token of the rest that there is none, so most equations
ask for that token only.

Two shapes of lists are read by loops.  In one, a separator stands between items and whatever comes
after the last decides that it is the last (`run_loop_separated`); in the other, every item tells by
its beginning that there is one (`run_loop_flatMap`).  In both the state of the loop goes through
the items from left to right, and an invariant of state and items to come carries what later items
need of earlier ones.
-/

namespace RelStore.Parser

variable {α β σ : Type} {fault : Option SyntaxError} {tokens rest : List Token}

theorem run_bind_of_ok {p : Parser α} {f : α → Parser β} {a : α}
    (h : p.run fault tokens = .ok (a, rest)) :
    (p >>= f).run fault tokens = (f a).run fault rest := by
  rw [run_bind, h]

theorem run_bind_of_error {p : Parser α} {f : α → Parser β} {e : Error}
    (h : p.run fault tokens = .error e) : (p >>= f).run fault tokens = .error e := by
  rw [run_bind, h]

theorem run_bind_eq_ok {p : Parser α} {f : α → Parser β} {b : β}
    (h : (p >>= f).run fault tokens = .ok (b, rest)) :
    ∃ a middle, p.run fault tokens = .ok (a, middle) ∧ (f a).run fault middle = .ok (b, rest) := by
  rw [run_bind] at h
  split at h
  next a middle hfirst => exact ⟨a, middle, hfirst, h⟩
  next => contradiction

/-- A parser is what it does to tokens. -/
theorem ext_run {p q : Parser α} (h : ∀ fault tokens, p.run fault tokens = q.run fault tokens) :
    p = q := by
  obtain ⟨run, _⟩ := p
  obtain ⟨run', _⟩ := q
  obtain rfl : run = run' := funext fun fault => funext (h fault)
  rfl

theorem bind_assoc {γ : Type} (p : Parser α) (f : α → Parser β) (g : β → Parser γ) :
    p >>= f >>= g = p >>= fun a => f a >>= g := by
  refine ext_run fun fault tokens => ?_
  simp only [run_bind]
  cases p.run fault tokens <;> rfl

/-! ## Single tokens -/

theorem run_takeIf?_of_head? {p : Token → Bool} (h : ∀ token ∈ tokens.head?, p token = false) :
    (takeIf? p).run fault tokens = .ok (none, tokens) := by
  cases tokens with
  | nil => rfl
  | cons token rest => simp [takeIf?, h token rfl]

theorem run_takeIf?_cons {p : Token → Bool} {token : Token} (h : p token = true)
    (rest : List Token) : (takeIf? p).run fault (token :: rest) = .ok (some token, rest) := by
  simp [takeIf?, h]

theorem run_accept_self (token : Token) (rest : List Token) :
    (accept token).run fault (token :: rest) = .ok (true, rest) := by
  unfold accept
  rw [run_bind_of_ok (run_takeIf?_cons (by simp) rest)]
  rfl

/-- A token that is not next is not read. -/
theorem run_accept_of_head?_ne {token : Token} (h : tokens.head? ≠ some token) :
    (accept token).run fault tokens = .ok (false, tokens) := by
  have hhead : ∀ other ∈ tokens.head?, (other == token) = false := by
    rintro other hother
    rw [beq_eq_false_iff_ne]
    rintro rfl
    exact h hother
  unfold accept
  rw [run_bind_of_ok (run_takeIf?_of_head? hhead)]
  rfl

theorem run_expect_self (token : Token) (rest : List Token) :
    (expect token).run fault (token :: rest) = .ok ((), rest) := by
  unfold expect
  rw [run_bind_of_ok (run_next_cons token fault rest), if_neg (by simp)]
  rfl

/-! ## Loops -/

section Loop

variable {step : σ → Parser (σ × Bool)} {state state' : σ}

theorem run_loop_of_more (h : (step state).run fault tokens = .ok ((state', true), rest))
    (hlt : rest.length < tokens.length) :
    (loop state step).run fault tokens = (loop state' step).run fault rest := by
  show runLoop step fault state tokens = runLoop step fault state' rest
  rw [runLoop]
  simp only [h]
  rw [dif_pos ⟨trivial, hlt⟩]

theorem run_loop_of_done (h : (step state).run fault tokens = .ok ((state', false), rest)) :
    (loop state step).run fault tokens = .ok (state', rest) := by
  show runLoop step fault state tokens = _
  rw [runLoop]
  simp [h]

variable (phrase : α → List Token) (advance : σ → α → σ) (invariant : σ → List α → Prop)

/-- **Items with a separator between any two are read one after the other.** -/
theorem run_loop_separated {separator : Token}
    (hkept : ∀ s a as, invariant s (a :: as) → invariant (advance s a) as)
    (hmore : ∀ s a b as tokens, invariant s (a :: b :: as) →
      (step s).run fault (phrase a ++ separator :: tokens) = .ok ((advance s a, true), tokens))
    {final : List Token}
    (hlast : ∀ s a, invariant s [a] →
      (step s).run fault (phrase a ++ final) = .ok ((advance s a, false), rest))
    {a : α} {as : List α} (h : invariant state (a :: as)) :
    (loop state step).run fault
        (phrase a ++ (as.flatMap fun b => separator :: phrase b) ++ final) =
      .ok ((a :: as).foldl advance state, rest) := by
  induction as generalizing state a with
  | nil =>
      rw [List.flatMap_nil, List.append_nil]
      exact run_loop_of_done (hlast state a h)
  | cons b as ih =>
      have hstep := hmore state a b as
        (phrase b ++ (as.flatMap fun c => separator :: phrase c) ++ final) h
      rw [List.flatMap_cons, List.append_assoc, List.cons_append, List.cons_append,
        run_loop_of_more hstep (by simp; omega)]
      exact ih (hkept state a (b :: as) h)

/-- **Items that each begin as only items do are read one after the other.** -/
theorem run_loop_flatMap (hne : ∀ a, phrase a ≠ [])
    (hkept : ∀ s a as, invariant s (a :: as) → invariant (advance s a) as)
    (hmore : ∀ s a as, invariant s (a :: as) →
      (step s).run fault (phrase a ++ (as.flatMap phrase ++ rest)) =
        .ok ((advance s a, true), as.flatMap phrase ++ rest))
    (hdone : ∀ s, invariant s [] → (step s).run fault rest = .ok ((s, false), rest))
    {as : List α} (h : invariant state as) :
    (loop state step).run fault (as.flatMap phrase ++ rest) =
      .ok (as.foldl advance state, rest) := by
  induction as generalizing state with
  | nil => exact run_loop_of_done (hdone state h)
  | cons a as ih =>
      have hlength := List.length_pos_iff.mpr (hne a)
      rw [List.flatMap_cons, List.append_assoc,
        run_loop_of_more (hmore state a as h) (by simp; omega)]
      exact ih (hkept state a as h)

end Loop

theorem foldl_append_singleton (init as : List α) :
    as.foldl (fun items a => items ++ [a]) init = init ++ as := by
  induction as generalizing init with
  | nil => simp
  | cons a as ih => rw [List.foldl_cons, ih, List.append_assoc, List.singleton_append]

/-- Items of one kind are read with commas between them. -/
theorem run_commaSeparated {item : Parser α} (phrase : α → List Token) {a : α} {as : List α}
    (hitem : ∀ b ∈ a :: as, ∀ tokens, tokens.head? = some (.symbol .comma) ∨ tokens = rest →
      item.run fault (phrase b ++ tokens) = .ok (b, tokens))
    (hrest : rest.head? ≠ some (.symbol .comma)) :
    (commaSeparated item).run fault
        (phrase a ++ (as.flatMap fun b => .symbol .comma :: phrase b) ++ rest) =
      .ok (a :: as, rest) := by
  have hfold := foldl_append_singleton [] (a :: as)
  rw [List.nil_append] at hfold
  rw [← hfold]
  refine run_loop_separated phrase (fun items b => items ++ [b]) (fun _ bs => bs ⊆ a :: as)
    ?_ ?_ ?_ (List.Subset.refl _)
  · intro items b bs h
    exact (List.cons_subset.mp h).2
  · intro items b c bs tokens h
    rw [run_bind_of_ok (hitem b (h List.mem_cons_self) _ (.inl rfl)),
      run_bind_of_ok (run_accept_self _ _)]
    rfl
  · intro items b h
    rw [run_bind_of_ok (hitem b (h List.mem_cons_self) _ (.inr rfl)),
      run_bind_of_ok (run_accept_of_head?_ne hrest)]
    rfl

end RelStore.Parser
