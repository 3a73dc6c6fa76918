import RelStore.Proofs.Failure
import RelStore.Token.Parser

/-!
# Phrases

A phrase is what a statement is made of: reading one takes tokens off the front, none of them the
semicolon that may close the statement, and where it fails the fault is in the text.  Sequences,
choices and repetitions of phrases are phrases.

A token that is read without being known beforehand is the one place where a semicolon could get
in, so a phrase that begins with one has to refuse it (`phrase_next_bind`).
-/

namespace RelStore.Parser

variable {α β σ : Type}

/-- Reads no semicolon, and never fails with an internal error. -/
structure Phrase (p : Parser α) : Prop where
  read : ∀ {fault tokens a rest}, p.run fault tokens = .ok (a, rest) →
    ∃ read, tokens = read ++ rest ∧ .symbol .semicolon ∉ read
  neverInternal : ∀ fault tokens, NeverInternal (p.run fault tokens)

theorem phrase_pure (a : α) : Phrase (pure a : Parser α) where
  read h := by
    cases h
    exact ⟨[], rfl, by simp⟩
  neverInternal _ _ := neverInternal_ok _

theorem phrase_fail {e : Error} (h : ∀ cause, e ≠ .internal cause) :
    Phrase (fail e : Parser α) where
  read := nofun
  neverInternal _ _ := neverInternal_error h

theorem phrase_malformed (cause : SyntaxError) : Phrase (malformed cause : Parser α) :=
  phrase_fail nofun

/-- **Phrases in a row are a phrase.** -/
theorem phrase_bind {p : Parser α} {f : α → Parser β} (hp : p.Phrase) (hf : ∀ a, (f a).Phrase) :
    (p >>= f).Phrase where
  read h := by
    rw [run_bind] at h
    split at h
    next a middle hfirst =>
      obtain ⟨first, rfl, hnotFirst⟩ := hp.read hfirst
      obtain ⟨second, rfl, hnotSecond⟩ := (hf a).read h
      refine ⟨first ++ second, (List.append_assoc ..).symm, fun hmem => ?_⟩
      exact (List.mem_append.mp hmem).elim hnotFirst hnotSecond
    next => contradiction
  neverInternal fault tokens := by
    rw [run_bind]
    split
    next a middle _ => exact (hf a).neverInternal fault middle
    next e hfirst => exact (hp.neverInternal fault tokens).of_eq_error hfirst

theorem phrase_ite {c : Prop} [Decidable c] {p q : Parser α} (hp : p.Phrase) (hq : q.Phrase) :
    (if c then p else q).Phrase := by
  split
  · exact hp
  · exact hq

/-! ## Single tokens -/

/-- A token is read that is no semicolon. -/
theorem notMem_singleton {token : Token} (h : token ≠ .symbol .semicolon) :
    Token.symbol .semicolon ∉ [token] :=
  fun hmem => h (List.mem_singleton.mp hmem).symm

theorem phrase_takeIf? {p : Token → Bool} (h : p (.symbol .semicolon) = false) :
    (takeIf? p).Phrase where
  read {fault tokens a rest} hrun := by
    cases tokens with
    | nil =>
        cases hrun
        exact ⟨[], rfl, by simp⟩
    | cons token tokens =>
        simp only [takeIf?] at hrun
        split at hrun
        next htoken =>
          cases hrun
          refine ⟨[token], rfl, notMem_singleton ?_⟩
          rintro rfl
          rw [h] at htoken
          contradiction
        next =>
          cases hrun
          exact ⟨[], rfl, by simp⟩
  neverInternal fault tokens := by
    cases tokens with
    | nil => exact neverInternal_ok _
    | cons token tokens =>
        simp only [takeIf?]
        split <;> exact neverInternal_ok _

theorem phrase_accept {token : Token} (h : token ≠ .symbol .semicolon) : (accept token).Phrase :=
  phrase_bind (phrase_takeIf? (beq_eq_false_iff_ne.mpr h.symm)) fun _ => phrase_pure _

/-- **A phrase that begins with any token refuses the semicolon.** -/
theorem phrase_next_bind {f : Token → Parser β} (hf : ∀ token, (f token).Phrase)
    (hsemicolon : ∃ cause, f (.symbol .semicolon) = malformed cause) : (next >>= f).Phrase where
  read {fault tokens a rest} h := by
    cases tokens with
    | nil => cases h
    | cons token tokens =>
        obtain ⟨read, rfl, hread⟩ := (hf token).read h
        refine ⟨token :: read, rfl, fun hmem => ?_⟩
        rcases List.mem_cons.mp hmem with htoken | hmem
        · obtain ⟨cause, hcause⟩ := hsemicolon
          change (f token).run fault _ = _ at h
          rw [← htoken, hcause] at h
          cases h
        · exact hread hmem
  neverInternal fault tokens := by
    cases tokens with
    | nil => exact neverInternal_error nofun
    | cons token tokens => exact (hf token).neverInternal fault tokens

theorem phrase_expect {token : Token} (h : token ≠ .symbol .semicolon) : (expect token).Phrase := by
  refine phrase_next_bind (fun actual => phrase_ite (phrase_malformed _) (phrase_pure _)) ?_
  exact ⟨.expectedToken token (.symbol .semicolon), if_pos h.symm⟩

/-- A phrase may look at its first token before it reads it, if that is no semicolon. -/
theorem phrase_peek?_bind {f : Option Token → Parser β}
    (hf : ∀ token?, (f token?).Phrase ∨ token? ≠ some (.symbol .semicolon) ∧
      ∃ q : Parser β, q.Phrase ∧ f token? = (next >>= fun _ => q)) : (peek? >>= f).Phrase where
  read {fault tokens a rest} h := by
    cases tokens with
    | nil =>
        cases fault with
        | some cause => cases h
        | none =>
            rcases hf none with hnone | ⟨-, q, -, heq⟩
            · exact hnone.read h
            · change (f none).run none [] = _ at h
              rw [heq] at h
              cases h
    | cons token tokens =>
        change (f (some token)).run fault (token :: tokens) = _ at h
        rcases hf (some token) with hsome | ⟨hne, q, hq, heq⟩
        · exact hsome.read h
        · rw [heq] at h
          obtain ⟨read, rfl, hread⟩ := hq.read h
          refine ⟨token :: read, rfl, fun hmem => ?_⟩
          rcases List.mem_cons.mp hmem with htoken | hmem
          · exact hne (congrArg some htoken.symm)
          · exact hread hmem
  neverInternal fault tokens := by
    cases tokens with
    | nil =>
        cases fault with
        | some cause => exact neverInternal_error nofun
        | none =>
            change NeverInternal ((f none).run none [])
            rcases hf none with hnone | ⟨-, q, -, heq⟩
            · exact hnone.neverInternal _ _
            · rw [heq]
              exact neverInternal_error nofun
    | cons token tokens =>
        change NeverInternal ((f (some token)).run fault (token :: tokens))
        rcases hf (some token) with hsome | ⟨-, q, hq, heq⟩
        · exact hsome.neverInternal _ _
        · rw [heq]
          exact hq.neverInternal fault tokens

/-! ## Loops -/

/-- **A phrase that is repeated is a phrase.** -/
theorem phrase_loop {step : σ → Parser (σ × Bool)} (hstep : ∀ s, (step s).Phrase) (initial : σ) :
    (loop initial step).Phrase where
  read {fault tokens s rest} h := by
    change runLoop step fault initial tokens = .ok (s, rest) at h
    fun_induction runLoop step fault initial tokens with
    | case1 => contradiction
    | case2 state tokens state' more rest' hread _ ih =>
        obtain ⟨first, rfl, hnotFirst⟩ := (hstep state).read hread
        obtain ⟨second, rfl, hnotSecond⟩ := ih h
        refine ⟨first ++ second, (List.append_assoc ..).symm, fun hmem => ?_⟩
        exact (List.mem_append.mp hmem).elim hnotFirst hnotSecond
    | case3 state tokens state' more rest' hread _ =>
        cases h
        exact (hstep state).read hread
  neverInternal fault tokens := by
    change NeverInternal (runLoop step fault initial tokens)
    fun_induction runLoop step fault initial tokens with
    | case1 state tokens e hread =>
        exact ((hstep state).neverInternal fault tokens).of_eq_error hread
    | case2 state tokens state' more rest' hread _ ih => exact ih
    | case3 => exact neverInternal_ok _

theorem phrase_commaSeparated {item : Parser α} (h : item.Phrase) : (commaSeparated item).Phrase :=
  phrase_loop (fun _ => phrase_bind h fun _ =>
    phrase_bind (phrase_accept (by decide)) fun _ => phrase_pure _) []

end RelStore.Parser
