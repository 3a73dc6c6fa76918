import RelStore.Proofs.Token.Lexed
import RelStore.Proofs.Token.Run

/-!
# What parsers yield

`Yields p P` says that whatever the parser reads from the tokens of a text has the property.  The
property of a composed parser follows from those of its parts: a bind hands the property of what was
read first on to what is read next, and a loop keeps an invariant of its state.

Tokens count as those of a text if they can be spelled.  A parser reads from the front only, so what
one leaves are again such tokens for the next.
-/

namespace RelStore.Parser

variable {α β σ : Type}

/-- Whatever the parser reads from tokens that can be spelled has the property. -/
def Yields (p : Parser α) (P : α → Prop) : Prop :=
  ∀ fault tokens a rest, (∀ t ∈ tokens, Token.Spellable t) →
    p.run fault tokens = .ok (a, rest) → P a

variable {p : Parser α} {P Q : α → Prop}

theorem Yields.mono (h : p.Yields P) (himp : ∀ a, P a → Q a) : p.Yields Q :=
  fun _ _ _ _ htokens hrun => himp _ (h _ _ _ _ htokens hrun)

theorem yields_pure {a : α} (h : P a) : (pure a : Parser α).Yields P := by
  intro fault tokens b rest _ hrun
  cases hrun
  exact h

theorem yields_fail (e : Error) : (fail e : Parser α).Yields P := by
  intro fault tokens a rest _ hrun
  cases hrun

theorem yields_malformed (cause : SyntaxError) : (malformed cause : Parser α).Yields P :=
  yields_fail _

theorem yields_true : p.Yields fun _ => True :=
  fun _ _ _ _ _ _ => trivial

/-- **What is read first is handed on to what is read next.** -/
theorem yields_bind {f : α → Parser β} {R : β → Prop} (hp : p.Yields P)
    (hf : ∀ a, P a → (f a).Yields R) : (p >>= f).Yields R := by
  intro fault tokens b rest htokens hrun
  rw [run_bind] at hrun
  split at hrun
  next a middle hfirst =>
    -- what one parser leaves are tokens of the text for the next
    have hmiddle : ∀ t ∈ middle, Token.Spellable t := fun t ht =>
      htokens t ((p.suffix_of_run hfirst).subset ht)
    exact hf a (hp _ _ _ _ htokens hfirst) _ _ _ _ hmiddle hrun
  next => contradiction

theorem yields_ite {c : Prop} [Decidable c] {q : Parser α} (hp : c → p.Yields P)
    (hq : ¬ c → q.Yields P) : (if c then p else q).Yields P := by
  split
  next hc => exact hp hc
  next hc => exact hq hc

/-! ## Single tokens -/

theorem yields_next : next.Yields Token.Spellable := by
  intro fault tokens a rest htokens hrun
  cases tokens with
  | nil => cases hrun
  | cons token tokens =>
      cases hrun
      exact htokens _ List.mem_cons_self

/-! ## Loops -/

/-- What every step makes of a state that is initial or was made by a step, the loop ends with. -/
theorem yields_loop {step : σ → Parser (σ × Bool)} {initial : σ} (I J : σ → Prop)
    (hinitial : I initial) (hstep : ∀ s, I s → (step s).Yields fun r => J r.1)
    (hagain : ∀ s, J s → I s) : (loop initial step).Yields J := by
  intro fault tokens s rest htokens hrun
  change runLoop step fault initial tokens = .ok (s, rest) at hrun
  fun_induction runLoop step fault initial tokens with
  | case1 => contradiction
  | case2 state tokens state' more rest' hread _ ih =>
      have hstate' := hstep state hinitial _ _ _ _ htokens hread
      have hrest' : ∀ t ∈ rest', Token.Spellable t := fun t ht =>
        htokens t (((step state).suffix_of_run hread).subset ht)
      exact ih (hagain _ hstate') hrest' hrun
  | case3 state tokens state' more rest' hread _ =>
      cases hrun
      exact hstep state hinitial _ _ _ _ htokens hread

end RelStore.Parser
