import RelStore.Proofs.Token.Run

/-!
# One token of look-ahead

A parser that has read some tokens has looked at one more at most.  It reads the same tokens again
when the rest begins with the same token, and also when it begins with another one that nothing but
a literal or a number of rows begins with, because no parser looks for such a token before it reads
it (`Alike`).

`Reads L p` says this of a parser together with a law `L` for the tokens that it reads.  Laws that
hold of no tokens and of two lists in a row go through sequences, choices and repetitions.
-/

namespace RelStore

/-- Whether only a literal or a number of rows begins with the token. -/
def Token.opensLiteral : Token → Bool
  | text _ | number _ _ | symbol .minus | keyword .null => true
  | _ => false

/-- Both lists begin with one token, or each with one that opens a literal. -/
def Alike (rest rest' : List Token) : Prop :=
  ∃ t ∈ rest.head?, ∃ t' ∈ rest'.head?, t = t' ∨ (t.opensLiteral = true ∧ t'.opensLiteral = true)

theorem alike_cons (t : Token) (after after' : List Token) : Alike (t :: after) (t :: after') :=
  ⟨t, rfl, t, rfl, .inl rfl⟩

theorem Alike.append_left {rest rest' : List Token} (h : Alike rest rest') (read : List Token) :
    Alike (read ++ rest) (read ++ rest') := by
  cases read with
  | nil => exact h
  | cons t read => exact alike_cons t _ _

/-- Tokens of which none opens a literal. -/
def Plain (read : List Token) : Prop :=
  ∀ t ∈ read, t.opensLiteral = false

/-- Tokens of which every one that opens a literal stands behind a symbol. -/
def BehindSymbols (read : List Token) : Prop :=
  ∀ before t after, read = before ++ t :: after → t.opensLiteral = true →
    ∃ front s, before = front ++ [.symbol s]

/-- The law holds of no tokens, and of two lists in a row that it holds of. -/
structure Composable (L : List Token → Prop) : Prop where
  nil : L []
  append : ∀ {read read'}, L read → L read' → L (read ++ read')

theorem composable_plain : Composable Plain where
  nil := nofun
  append h h' := List.forall_mem_append.mpr ⟨h, h'⟩

theorem composable_behindSymbols : Composable BehindSymbols where
  nil _ _ _ h := by simp at h
  append {read read'} h h' before t after heq ht := by
    rcases List.append_eq_append_iff.mp heq with ⟨middle, rfl, hread'⟩ | ⟨middle, hread, hafter⟩
    · obtain ⟨front, s, rfl⟩ := h' middle t after hread' ht
      exact ⟨read ++ front, s, (List.append_assoc ..).symm⟩
    · cases middle with
      | nil =>
          obtain ⟨front, s, hfront⟩ := h' [] t after hafter.symm ht
          simp at hfront
      | cons other middle =>
          obtain ⟨rfl, -⟩ := List.cons.inj hafter
          exact h before t middle hread ht

/-- Any tokens at all. -/
theorem composable_true : Composable fun _ => True where
  nil := trivial
  append _ _ := trivial

theorem Plain.behindSymbols {read : List Token} (h : Plain read) : BehindSymbols read := by
  rintro before t after rfl ht
  rw [h t (by simp)] at ht
  contradiction

theorem plain_singleton {t : Token} (h : t.opensLiteral = false) : Plain [t] :=
  List.forall_mem_singleton.mpr h

namespace Parser

variable {α β σ : Type} {L L' L'' : List Token → Prop} {p : Parser α}

/-- What the parser reads obeys the law, and is read again before a rest that goes on alike. -/
def Reads (L : List Token → Prop) (p : Parser α) : Prop :=
  ∀ ⦃fault tokens a rest⦄, p.run fault tokens = .ok (a, rest) →
    ∃ read, tokens = read ++ rest ∧ L read ∧
      ∀ fault' rest', Alike rest rest' → p.run fault' (read ++ rest') = .ok (a, rest')

theorem Reads.mono (h : p.Reads L) (himp : ∀ read, L read → L' read) : p.Reads L' := by
  intro fault tokens a rest hrun
  obtain ⟨read, htokens, hread, hagain⟩ := h hrun
  exact ⟨read, htokens, himp read hread, hagain⟩

theorem reads_pure (hnil : L []) (a : α) : (pure a : Parser α).Reads L := by
  intro fault tokens b rest hrun
  cases hrun
  exact ⟨[], rfl, hnil, fun _ _ _ => rfl⟩

theorem reads_fail (e : Error) : (fail e : Parser α).Reads L := by
  intro fault tokens a rest hrun
  cases hrun

theorem reads_malformed (cause : SyntaxError) : (malformed cause : Parser α).Reads L :=
  reads_fail _

/-- Two parsers in a row, each with a law of its own for what it reads. -/
theorem reads_bind_of {f : α → Parser β} (hp : p.Reads L) (hf : ∀ a, (f a).Reads L')
    (happend : ∀ {read read'}, L read → L' read' → L'' (read ++ read')) : (p >>= f).Reads L'' := by
  intro fault tokens b rest hrun
  rw [run_bind] at hrun
  split at hrun
  next a middle hfirst =>
    obtain ⟨first, rfl, hL, hagain⟩ := hp hfirst
    obtain ⟨second, rfl, hL', hagain'⟩ := hf a hrun
    refine ⟨first ++ second, (List.append_assoc ..).symm, happend hL hL', fun fault' rest' h => ?_⟩
    rw [List.append_assoc, run_bind_of_ok (hagain fault' _ (h.append_left second))]
    exact hagain' fault' rest' h
  next => contradiction

/-- **Parsers in a row read as each of them does.** -/
theorem reads_bind (hL : Composable L) {f : α → Parser β} (hp : p.Reads L)
    (hf : ∀ a, (f a).Reads L) : (p >>= f).Reads L :=
  reads_bind_of hp hf hL.append

theorem reads_bind_any {f : α → Parser β} (hp : p.Reads L)
    (hf : ∀ a, (f a).Reads fun _ => True) : (p >>= f).Reads fun _ => True :=
  reads_bind composable_true (hp.mono fun _ _ => trivial) hf

theorem reads_ite {c : Prop} [Decidable c] {q : Parser α} (hp : p.Reads L) (hq : q.Reads L) :
    (if c then p else q).Reads L := by
  split
  · exact hp
  · exact hq

/-! ## Single tokens -/

/-- A token that is looked for is read alone, and opens no literal. -/
theorem reads_takeIf? {accepts : Token → Bool}
    (h : ∀ t, t.opensLiteral = true → accepts t = false) : (takeIf? accepts).Reads Plain := by
  intro fault tokens t? rest hrun
  cases tokens with
  | nil =>
      cases hrun
      refine ⟨[], rfl, nofun, fun _ _ hhead => ?_⟩
      obtain ⟨_, ht, -⟩ := hhead
      cases ht
  | cons token tokens =>
      simp only [takeIf?] at hrun
      split at hrun
      next htoken =>
        cases hrun
        have hplain : token.opensLiteral = false := by
          rw [← Bool.not_eq_true]
          intro hopens
          rw [h token hopens] at htoken
          contradiction
        exact ⟨[token], rfl, plain_singleton hplain, fun _ _ _ => run_takeIf?_cons htoken _⟩
      next htoken =>
        cases hrun
        refine ⟨[], rfl, nofun, fun fault' rest' hhead => ?_⟩
        obtain ⟨t, ht, t', ht', halike⟩ := hhead
        obtain rfl : token = t := Option.some.inj ht
        refine run_takeIf?_of_head? fun other hother => ?_
        obtain rfl : t' = other := Option.some.inj (ht'.symm.trans hother)
        rcases halike with rfl | ⟨-, hopens⟩
        · simpa using htoken
        · exact h t' hopens

theorem reads_accept {token : Token} (h : token.opensLiteral = false) :
    (accept token).Reads Plain := by
  refine reads_bind composable_plain (reads_takeIf? fun t ht => ?_) fun _ => reads_pure nofun _
  rw [beq_eq_false_iff_ne]
  rintro rfl
  rw [h] at ht
  contradiction

/-- A token that is read unseen, with a law for it and what is read behind it. -/
theorem reads_next_bind_of {f : Token → Parser β}
    (hf : ∀ t, (f t).Reads fun read => L (t :: read)) : (next >>= f).Reads L := by
  intro fault tokens b rest hrun
  cases tokens with
  | nil => cases hrun
  | cons token tokens =>
      change (f token).run fault tokens = _ at hrun
      obtain ⟨read, rfl, hread, hagain⟩ := hf token hrun
      exact ⟨token :: read, rfl, hread, hagain⟩

/-- **A token that is read unseen is refused where the law excludes it.** -/
theorem reads_next_bind {f : Token → Parser β} (hL : Composable L) (hf : ∀ t, (f t).Reads L)
    (hrefuse : ∀ t, L [t] ∨ ∃ cause, f t = malformed cause) : (next >>= f).Reads L := by
  refine reads_next_bind_of fun t => ?_
  rcases hrefuse t with ht | ⟨cause, hcause⟩
  · exact (hf t).mono fun read hread => hL.append ht hread
  · rw [hcause]
    exact reads_malformed cause

theorem reads_expect {token : Token} (h : token.opensLiteral = false) :
    (expect token).Reads Plain := by
  refine reads_next_bind composable_plain
    (fun _ => reads_ite (reads_malformed _) (reads_pure nofun _)) fun actual => ?_
  by_cases hactual : actual = token
  · exact .inl (plain_singleton (hactual ▸ h))
  · exact .inr ⟨.expectedToken token actual, if_pos hactual⟩

/-- A parser may look at its first token before it reads it, if it takes all that open a literal
alike. -/
theorem reads_peek?_bind {f : Option Token → Parser β}
    (hf : ∀ t?, (f t?).Reads Plain ∨ ∃ t q, t? = some t ∧ t.opensLiteral = false ∧
      Parser.Reads Plain q ∧ f t? = (next >>= fun _ => q))
    (hopens : ∃ q, ∀ t, t.opensLiteral = true → f (some t) = q) : (peek? >>= f).Reads Plain := by
  obtain ⟨q₀, hopens⟩ := hopens
  intro fault tokens b rest hrun
  cases tokens with
  | nil =>
      cases fault with
      | some cause => cases hrun
      | none =>
          change (f none).run none [] = _ at hrun
          rcases hf none with hnone | ⟨t, q, ht, -⟩
          · obtain ⟨read, hread, -, -⟩ := hnone hrun
            obtain ⟨rfl, rfl⟩ := List.append_eq_nil_iff.mp hread.symm
            exact ⟨[], rfl, nofun, fun _ _ ⟨_, ht, _⟩ => absurd ht (by simp)⟩
          · cases ht
  | cons token tokens =>
      change (f (some token)).run fault (token :: tokens) = _ at hrun
      rcases hf (some token) with hsome | ⟨_, q, ⟨⟩, htoken, hq, heq⟩
      · obtain ⟨read, hread, hplain, hagain⟩ := hsome hrun
        refine ⟨read, hread, hplain, fun fault' rest' halike => ?_⟩
        have hrun' := hagain fault' rest' halike
        cases read with
        | nil =>
            -- nothing was read, so the token that is looked at may be another one
            obtain ⟨t, ht, t', ht', halike⟩ := halike
            obtain ⟨tail, rfl⟩ := List.head?_eq_some_iff.mp ht'
            obtain rfl : token :: tokens = rest := hread
            obtain rfl : token = t := Option.some.inj ht
            show (f (some t')).run fault' (t' :: tail) = _
            rcases halike with rfl | ⟨hopen, hopen'⟩
            · exact hrun'
            · rw [hopens t' hopen', ← hopens token hopen]
              exact hrun'
        | cons other read =>
            obtain ⟨rfl, -⟩ := List.cons.inj hread
            exact hrun'
      · rw [heq] at hrun
        change q.run fault tokens = _ at hrun
        obtain ⟨read, rfl, hplain, hagain⟩ := hq hrun
        refine ⟨token :: read, rfl, composable_plain.append (plain_singleton htoken) hplain, ?_⟩
        intro fault' rest' halike
        show (f (some token)).run fault' (token :: (read ++ rest')) = _
        rw [heq]
        exact hagain fault' rest' halike

/-! ## Loops -/

/-- **A parser that is repeated reads as one step does.** -/
theorem reads_loop (hL : Composable L) {step : σ → Parser (σ × Bool)}
    (hstep : ∀ s, (step s).Reads L) (initial : σ) : (loop initial step).Reads L := by
  intro fault tokens s rest hrun
  change runLoop step fault initial tokens = .ok (s, rest) at hrun
  fun_induction runLoop step fault initial tokens with
  | case1 => contradiction
  | case2 state tokens state' more rest' hread hmore ih =>
      obtain ⟨first, rfl, hfirst, hagain⟩ := hstep state hread
      obtain ⟨second, rfl, hsecond, hagain'⟩ := ih hrun
      obtain ⟨rfl, hlt⟩ := hmore
      refine ⟨first ++ second, (List.append_assoc ..).symm, hL.append hfirst hsecond, ?_⟩
      intro fault' rest' h
      have hlt' : (second ++ rest').length < (first ++ (second ++ rest')).length := by
        simp only [List.length_append] at hlt ⊢
        omega
      rw [List.append_assoc, run_loop_of_more (hagain fault' _ (h.append_left second)) hlt']
      exact hagain' fault' rest' h
  | case3 state tokens state' more rest' hread hmore =>
      cases hrun
      obtain ⟨first, rfl, hfirst, hagain⟩ := hstep state hread
      refine ⟨first, rfl, hfirst, fun fault' rest' h => ?_⟩
      show runLoop step fault' state (first ++ rest') = _
      rw [runLoop]
      simp only [hagain fault' rest' h]
      -- the step asked for no more, or read nothing
      refine dif_neg fun hagain => hmore ⟨hagain.1, ?_⟩
      have hlt := hagain.2
      simp only [List.length_append] at hlt ⊢
      omega

theorem reads_commaSeparated {item : Parser α} (h : item.Reads Plain) :
    (commaSeparated item).Reads Plain :=
  reads_loop composable_plain (fun _ => reads_bind composable_plain h fun _ =>
    reads_bind composable_plain (reads_accept rfl) fun _ => reads_pure nofun _) []

end Parser

end RelStore
