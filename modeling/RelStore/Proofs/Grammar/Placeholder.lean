import RelStore.Proofs.Grammar.LookAhead

/-!
# Literals in the place of a null

A null is a literal wherever one may stand, and is a token that no other phrase reads.  So it marks
the places of literals: where the word `NULL` is read, other literals are read as well, and all that
was read besides stays as it was.

`Fills F p` says so of a parser: whatever it reads from tokens with a null among them, either the
null is left for others to read, or it was read as a literal, and with the tokens of another
literal in its place the parser reads what a filling of `F` makes of that literal, or fails with the
fault of the literal.  What is read behind the literal does not depend on it (`Uniform`).
-/

namespace RelStore

open RelStore.Parser

namespace Grammar

/-- The tokens are read as the literal or refused with the fault, wherever a literal is read. -/
structure ReadAs (hole : List Token) (result : Except SyntaxError Value) : Prop where
  opens : ∃ t ∈ hole.head?, t.opensLiteral = true
  run_literal : ∀ allowBoolean fault rest,
    (literal allowBoolean).run fault (hole ++ rest) = (ofResult result).run fault rest

theorem readAs_number (whole : String) (fraction : Option String) :
    ReadAs [.number whole fraction] (numberLiteral false whole fraction) where
  opens := ⟨_, rfl, rfl⟩
  run_literal _ _ _ := rfl

theorem readAs_minus_number (whole : String) (fraction : Option String) :
    ReadAs [.symbol .minus, .number whole fraction] (numberLiteral true whole fraction) where
  opens := ⟨_, rfl, rfl⟩
  run_literal _ _ _ := rfl

theorem ReadAs.alike {hole : List Token} {result : Except SyntaxError Value}
    (h : ReadAs hole result) (before after after' : List Token) :
    Alike (before ++ .keyword .null :: after) (before ++ (hole ++ after')) := by
  refine Alike.append_left ?_ before
  obtain ⟨t, ht, hopens⟩ := h.opens
  obtain ⟨tail, rfl⟩ := List.head?_eq_some_iff.mp ht
  exact ⟨_, rfl, t, rfl, .inr ⟨rfl, hopens⟩⟩

theorem ReadAs.length_pos {hole : List Token} {result : Except SyntaxError Value}
    (h : ReadAs hole result) : 0 < hole.length := by
  obtain ⟨t, ht, -⟩ := h.opens
  obtain ⟨tail, rfl⟩ := List.head?_eq_some_iff.mp ht
  exact Nat.succ_pos _

end Grammar

namespace Parser

open Grammar

variable {α β σ : Type} {L : List Token → Prop} {p : Parser α}
  {F : (Value → α) → Prop} {G : (Value → β) → Prop}

/-! ## Reading behind the literal -/

/-- The parsers read the same tokens for every literal, and what they read is a filling of `F`. -/
def Uniform (F : (Value → α) → Prop) (p : Value → Parser α) : Prop :=
  ∀ ⦃fault tokens a rest⦄, (p .null).run fault tokens = .ok (a, rest) →
    ∃ fill, F fill ∧ fill .null = a ∧ ∀ v, (p v).run fault tokens = .ok (fill v, rest)

theorem uniform_pure {fill : Value → α} (h : F fill) : Uniform F fun v => pure (fill v) := by
  intro fault tokens a rest hrun
  cases hrun
  exact ⟨fill, h, rfl, fun _ => rfl⟩

theorem uniform_malformed (cause : SyntaxError) :
    Uniform F fun _ => (malformed cause : Parser α) := by
  intro fault tokens a rest hrun
  cases hrun

theorem uniform_bind {p : Value → Parser α} {f : Value → α → Parser β} (hp : Uniform F p)
    (hf : ∀ fill, F fill → Uniform G fun v => f v (fill v)) : Uniform G fun v => p v >>= f v := by
  intro fault tokens b rest hrun
  rw [run_bind] at hrun
  split at hrun
  next a middle hfirst =>
    obtain ⟨fill, hfill, rfl, hagain⟩ := hp hfirst
    obtain ⟨fill', hfill', hnull, hagain'⟩ := hf fill hfill hrun
    exact ⟨fill', hfill', hnull, fun v => (run_bind_of_ok (hagain v)).trans (hagain' v)⟩
  next => contradiction

/-- What is read in between may not depend on the literal. -/
theorem uniform_bind_const {f : Value → α → Parser β} (hf : ∀ a, Uniform G fun v => f v a) :
    Uniform G fun v => p >>= f v := by
  refine uniform_bind (F := fun fill => ∃ a, fill = fun _ => a) ?_ ?_
  · intro fault tokens a rest hrun
    exact ⟨fun _ => a, ⟨a, rfl⟩, rfl, fun _ => hrun⟩
  · rintro _ ⟨a, rfl⟩
    exact hf a

/-- A filling of the state of a loop, with whether the loop goes on. -/
def Continues (I : (Value → σ) → Prop) (fill : Value → σ × Bool) : Prop :=
  ∃ state more, I state ∧ fill = fun v => (state v, more)

theorem uniform_loop {I : (Value → σ) → Prop} {step : σ → Parser (σ × Bool)}
    (hstep : ∀ state, I state → Uniform (Continues I) fun v => step (state v))
    {state : Value → σ} (hstate : I state) : Uniform I fun v => loop (state v) step := by
  intro fault tokens a rest hrun
  change runLoop step fault (state .null) tokens = .ok (a, rest) at hrun
  generalize hnull : state .null = s at hrun
  fun_induction runLoop step fault s tokens generalizing state with
  | case1 => contradiction
  | case2 s tokens s' more rest' hread hmore ih =>
      subst hnull
      obtain ⟨_, ⟨state', more', hstate', rfl⟩, hnull', hagain⟩ := hstep state hstate hread
      cases hnull'
      obtain ⟨rfl, hlt⟩ := hmore
      obtain ⟨fill, hfill, hfillNull, hloop⟩ := ih hstate' rfl hrun
      exact ⟨fill, hfill, hfillNull, fun v => (run_loop_of_more (hagain v) hlt).trans (hloop v)⟩
  | case3 s tokens s' more rest' hread hmore =>
      subst hnull
      obtain ⟨_, ⟨state', more', hstate', rfl⟩, hnull', hagain⟩ := hstep state hstate hread
      cases hnull'
      cases hrun
      refine ⟨state', hstate', rfl, fun v => ?_⟩
      show runLoop step fault (state v) tokens = _
      rw [runLoop]
      simp only [hagain v]
      exact dif_neg hmore

/-! ## Reading the literal -/

/-- The parser leaves the null or reads it as a literal, in the place of which it reads others. -/
def Fills (F : (Value → α) → Prop) (p : Parser α) : Prop :=
  ∀ ⦃fault before after a rest⦄, p.run fault (before ++ .keyword .null :: after) = .ok (a, rest) →
    (∃ before', rest = before' ++ .keyword .null :: after) ∨
      ∃ fill, F fill ∧ fill .null = a ∧ rest <:+ after ∧ ∀ hole result, ReadAs hole result →
        (∀ v, result = .ok v → p.run fault (before ++ (hole ++ after)) = .ok (fill v, rest)) ∧
        ∀ cause, result = .error cause → ∀ fault' after',
          p.run fault' (before ++ (hole ++ after')) = .error (.malformed cause)

/-- A parser that reads no null leaves it. -/
theorem fills_of_reads (h : p.Reads L) (hL : ∀ read, L read → .keyword .null ∉ read) :
    p.Fills F := by
  intro fault before after a rest hrun
  obtain ⟨read, hread, hlaw, -⟩ := h hrun
  rcases List.append_eq_append_iff.mp hread with ⟨middle, rfl, hafter⟩ | ⟨middle, rfl, hrest⟩
  · cases middle with
    | nil => exact .inl ⟨[], hafter.symm⟩
    | cons t middle =>
        obtain ⟨rfl, -⟩ := List.cons.inj hafter
        exact absurd (by simp) (hL _ hlaw)
  · exact .inl ⟨middle, hrest⟩

theorem fills_of_plain (h : p.Reads Plain) : p.Fills F :=
  fills_of_reads h fun read hread hmem => absurd (hread _ hmem) (by decide)

theorem fills_malformed (cause : SyntaxError) : (malformed cause : Parser α).Fills F :=
  fills_of_plain (reads_malformed cause)

theorem fills_fail (e : Error) : (fail e : Parser α).Fills F :=
  fills_of_plain (reads_fail e)

theorem fills_pure (a : α) : (pure a : Parser α).Fills F :=
  fills_of_plain (reads_pure nofun a)

theorem fills_ite {c : Prop} [Decidable c] {q : Parser α} (hp : p.Fills F) (hq : q.Fills F) :
    (if c then p else q).Fills F := by
  split
  · exact hp
  · exact hq

/-- **The literal is read by the first parser, or by the second after the first has read the same.**
-/
theorem fills_bind {f : α → Parser β} (hreads : p.Reads L) (hp : p.Fills F)
    (hf : ∀ a, (f a).Fills G) (huniform : ∀ fill, F fill → Uniform G fun v => f (fill v)) :
    (p >>= f).Fills G := by
  intro fault before after b rest hrun
  rw [run_bind] at hrun
  split at hrun
  next a middle hfirst =>
    rcases hp hfirst with ⟨before', rfl⟩ | ⟨fill, hfill, rfl, hsuffix, hholes⟩
    · -- the null is left by the first parser
      obtain ⟨read, hread, -, hagain⟩ := hreads hfirst
      obtain rfl : before = read ++ before' :=
        List.append_cancel_right (hread.trans (List.append_assoc ..).symm)
      refine (hf a hrun).imp_right ?_
      rintro ⟨fill, hfill, hnull, hsuffix, hholes⟩
      refine ⟨fill, hfill, hnull, hsuffix, fun hole result hhole => ?_⟩
      obtain ⟨hok, herror⟩ := hholes hole result hhole
      refine ⟨fun v hv => ?_, fun cause hcause fault' after' => ?_⟩
      · rw [List.append_assoc, run_bind_of_ok (hagain fault _ (hhole.alike before' after after))]
        exact hok v hv
      · rw [List.append_assoc, run_bind_of_ok (hagain fault' _ (hhole.alike before' after after'))]
        exact herror cause hcause fault' after'
    · obtain ⟨fill', hfill', rfl, huniform⟩ := huniform fill hfill hrun
      refine .inr ⟨fill', hfill', rfl, ((f _).suffix_of_run hrun).trans hsuffix,
        fun hole result hhole => ?_⟩
      obtain ⟨hok, herror⟩ := hholes hole result hhole
      refine ⟨fun v hv => (run_bind_of_ok (hok v hv)).trans (huniform v),
        fun cause hcause _ _ => ?_⟩
      rw [run_bind, herror cause hcause]
  next => contradiction

/-- The first parser reads no literal. -/
theorem fills_bind_plain {f : α → Parser β} (hp : p.Reads Plain) (hf : ∀ a, (f a).Fills G) :
    (p >>= f).Fills G :=
  fills_bind (F := fun _ => False) hp (fills_of_plain hp) hf fun _ => False.elim

/-- What is read is changed as one value. -/
theorem fills_map {g : α → β} (hp : p.Fills F) (hg : ∀ fill, F fill → G fun v => g (fill v)) :
    (p >>= fun a => pure (g a)).Fills G := by
  intro fault before after b rest hrun
  rw [run_bind] at hrun
  split at hrun
  next a middle hfirst =>
    cases hrun
    refine (hp hfirst).imp_right ?_
    rintro ⟨fill, hfill, rfl, hsuffix, hholes⟩
    refine ⟨_, hg fill hfill, rfl, hsuffix, fun hole result hhole => ?_⟩
    obtain ⟨hok, herror⟩ := hholes hole result hhole
    refine ⟨fun v hv => run_bind_of_ok (hok v hv), fun cause hcause fault' after' => ?_⟩
    rw [run_bind, herror cause hcause]
  next => contradiction

/-- A parser may look at its first token before it reads it, if that cannot be the null. -/
theorem fills_peek?_bind {f : Option Token → Parser β} (hf : ∀ t?, (f t?).Fills G) {e : Error}
    (hnull : f (some (.keyword .null)) = fail e) : (peek? >>= f).Fills G := by
  intro fault before after b rest hrun
  cases before with
  | nil =>
      change (f (some (.keyword .null))).run fault _ = _ at hrun
      rw [hnull] at hrun
      cases hrun
  | cons t before => exact @hf (some t) fault (t :: before) after b rest hrun

/-- **A loop reads the literal in one of its steps**, after which the steps are uniform. -/
theorem fills_loop {I : (Value → σ) → Prop} {step : σ → Parser (σ × Bool)}
    (hreads : ∀ s, (step s).Reads L) (hstep : ∀ s, (step s).Fills (Continues I))
    (huniform : ∀ state, I state → Uniform (Continues I) fun v => step (state v)) (initial : σ) :
    (loop initial step).Fills I := by
  intro fault before after a rest hrun
  change runLoop step fault initial (before ++ .keyword .null :: after) = .ok (a, rest) at hrun
  generalize htokens : before ++ .keyword .null :: after = tokens at hrun
  fun_induction runLoop step fault initial tokens generalizing before with
  | case1 => contradiction
  | case2 s tokens s' more rest' hread hmore ih =>
      subst htokens
      obtain ⟨rfl, hlt⟩ := hmore
      rcases hstep s hread with
        ⟨before', rfl⟩ | ⟨_, ⟨state, more, hstate, rfl⟩, hnull, hsuffix, hholes⟩
      · obtain ⟨read, hsplit, -, hagain⟩ := hreads s hread
        obtain rfl : before = read ++ before' :=
          List.append_cancel_right (hsplit.trans (List.append_assoc ..).symm)
        refine (ih rfl hrun).imp_right ?_
        rintro ⟨fill, hfill, hnull, hsuffix, hholes⟩
        refine ⟨fill, hfill, hnull, hsuffix, fun hole result hhole => ?_⟩
        have hlt' : ∀ after', (before' ++ (hole ++ after')).length <
            (read ++ (before' ++ (hole ++ after'))).length := by
          intro after'
          simp only [List.length_append] at hlt ⊢
          omega
        obtain ⟨hok, herror⟩ := hholes hole result hhole
        refine ⟨fun v hv => ?_, fun cause hcause fault' after' => ?_⟩
        · rw [List.append_assoc,
            run_loop_of_more (hagain fault _ (hhole.alike before' after after)) (hlt' after)]
          exact hok v hv
        · rw [List.append_assoc,
            run_loop_of_more (hagain fault' _ (hhole.alike before' after after')) (hlt' after')]
          exact herror cause hcause fault' after'
      · cases hnull
        obtain ⟨fill, hfill, rfl, hloop⟩ := uniform_loop huniform hstate hrun
        have hrun : (loop (state .null) step).run fault rest' = .ok (_, rest) := hrun
        refine .inr ⟨fill, hfill, rfl, ((loop _ step).suffix_of_run hrun).trans hsuffix,
          fun hole result hhole => ?_⟩
        obtain ⟨hok, herror⟩ := hholes hole result hhole
        refine ⟨fun v hv => ?_, fun cause hcause fault' after' => ?_⟩
        · have hlt' : rest'.length < (before ++ (hole ++ after)).length := by
            have := hsuffix.length_le
            have := hhole.length_pos
            simp only [List.length_append]
            omega
          exact (run_loop_of_more (hok v hv) hlt').trans (hloop v)
        · show runLoop step fault' s _ = _
          rw [runLoop]
          simp only [herror cause hcause fault' after']
  | case3 s tokens s' more rest' hread hmore =>
      subst htokens
      cases hrun
      rcases hstep s hread with hleft | ⟨_, ⟨state, more, hstate, rfl⟩, hnull, hsuffix, hholes⟩
      · exact .inl hleft
      · cases hnull
        refine .inr ⟨state, hstate, rfl, hsuffix, fun hole result hhole => ?_⟩
        obtain ⟨hok, herror⟩ := hholes hole result hhole
        refine ⟨fun v hv => ?_, fun cause hcause fault' after' => ?_⟩
        · -- the null was read, so the step asked for no more
          have hdone : more = false := by
            rw [← Bool.not_eq_true]
            intro htrue
            refine hmore ⟨htrue, ?_⟩
            have := hsuffix.length_le
            simp only [List.length_append, List.length_cons]
            omega
          subst hdone
          exact run_loop_of_done (hok v hv)
        · show runLoop step fault' s _ = _
          rw [runLoop]
          simp only [herror cause hcause fault' after']

end Parser

end RelStore
