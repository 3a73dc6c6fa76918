import RelStore.Proofs.Error.SingleLine
import RelStore.Proofs.Token.Yields

/-!
# What parsers report

`Reports texts p P` says two things of a parser that is run on tokens of which only the quoted texts
may have line ends in them: what it reads has the property, and where it fails the message is a
single line unless it shows one of the texts.

It composes as `Yields` does, which says the first thing alone; what a parser is known to yield can
be added to what it reports (`Reports.and_yields`).
-/

namespace RelStore

open Text

/-- The token can be spelled, and if it is a text it is one of the texts. -/
def Token.Among (texts : String → Prop) (t : Token) : Prop :=
  t.Spellable ∧ ∀ s, t = .text s → texts s

theorem Token.Among.singleLineUnless {texts : String → Prop} {t : Token} (h : t.Among texts) :
    t.SingleLineUnless texts :=
  h.1.singleLineUnless h.2

namespace Parser

variable {α β σ : Type} (texts : String → Prop)

/-- On tokens with such texts the parser reads only what has the property and breaks messages only
for the texts. -/
def Reports (p : Parser α) (P : α → Prop) : Prop :=
  ∀ fault tokens, (∀ cause ∈ fault, (Error.malformed cause).SingleLineUnless texts) →
    (∀ t ∈ tokens, t.Among texts) →
      FailsOnly (Error.SingleLineUnless texts) (p.run fault tokens) ∧
        ∀ a rest, p.run fault tokens = .ok (a, rest) → P a

variable {texts} {p : Parser α} {P Q : α → Prop}

theorem Reports.mono (h : p.Reports texts P) (himp : ∀ a, P a → Q a) : p.Reports texts Q := by
  intro fault tokens hfault htokens
  obtain ⟨herror, hread⟩ := h fault tokens hfault htokens
  exact ⟨herror, fun a rest hrun => himp a (hread a rest hrun)⟩

theorem Reports.and_yields (h : p.Reports texts P) (hyields : p.Yields Q) :
    p.Reports texts fun a => P a ∧ Q a := by
  intro fault tokens hfault htokens
  obtain ⟨herror, hread⟩ := h fault tokens hfault htokens
  refine ⟨herror, fun a rest hrun => ⟨hread a rest hrun, ?_⟩⟩
  exact hyields _ _ _ _ (fun t ht => (htokens t ht).1) hrun

theorem reports_pure {a : α} (h : P a) : (pure a : Parser α).Reports texts P := by
  refine fun fault tokens _ _ => ⟨failsOnly_ok _, fun b rest hrun => ?_⟩
  cases hrun
  exact h

theorem reports_fail {e : Error} (h : e.SingleLineUnless texts) :
    (fail e : Parser α).Reports texts P :=
  fun _ _ _ _ => ⟨failsOnly_error h, nofun⟩

theorem reports_malformed {cause : SyntaxError}
    (h : (Error.malformed cause).SingleLineUnless texts) :
    (malformed cause : Parser α).Reports texts P :=
  reports_fail h

/-- **What is read first is handed on to what is read next.** -/
theorem reports_bind {f : α → Parser β} {R : β → Prop} (hp : p.Reports texts P)
    (hf : ∀ a, P a → (f a).Reports texts R) : (p >>= f).Reports texts R := by
  intro fault tokens hfault htokens
  obtain ⟨herror, hread⟩ := hp fault tokens hfault htokens
  rw [run_bind]
  split
  next a middle hfirst =>
    -- what one parser leaves are tokens of the same kind for the next
    refine hf a (hread a middle hfirst) fault middle hfault fun t ht => ?_
    exact htokens t ((p.suffix_of_run hfirst).subset ht)
  next e hfirst =>
    refine ⟨herror.of_eq_error hfirst, fun b rest hrun => ?_⟩
    contradiction

theorem reports_ite {c : Prop} [Decidable c] {q : Parser α} (hp : c → p.Reports texts P)
    (hq : ¬ c → q.Reports texts P) : (if c then p else q).Reports texts P := by
  split
  next hc => exact hp hc
  next hc => exact hq hc

/-! ## Single tokens -/

theorem reports_next : next.Reports texts (Token.Among texts) := by
  intro fault tokens hfault htokens
  cases tokens with
  | nil =>
      refine ⟨failsOnly_error ?_, nofun⟩
      cases fault with
      | none => exact Error.singleLineUnless_of_singleLine (by decide)
      | some cause => exact hfault cause rfl
  | cons t tokens =>
      refine ⟨failsOnly_ok _, fun a rest hrun => ?_⟩
      cases hrun
      exact htokens _ List.mem_cons_self

theorem reports_peek? : peek?.Reports texts fun t? => ∀ t ∈ t?, t.Among texts := by
  intro fault tokens hfault htokens
  cases tokens with
  | nil =>
      cases fault with
      | none =>
          refine ⟨failsOnly_ok _, fun a rest hrun => ?_⟩
          cases hrun
          nofun
      | some cause => exact ⟨failsOnly_error (hfault cause rfl), nofun⟩
  | cons t tokens =>
      refine ⟨failsOnly_ok _, fun a rest hrun => ?_⟩
      cases hrun
      rintro _ ⟨⟩
      exact htokens _ List.mem_cons_self

theorem reports_takeIf? (p : Token → Bool) : (takeIf? p).Reports texts fun _ => True := by
  refine fun fault tokens _ _ => ⟨?_, fun _ _ _ => trivial⟩
  cases tokens with
  | nil => exact failsOnly_ok _
  | cons t tokens =>
      simp only [takeIf?]
      split <;> exact failsOnly_ok _

theorem reports_accept (t : Token) : (accept t).Reports texts fun _ => True :=
  reports_bind (reports_takeIf? _) fun _ _ => reports_pure trivial

theorem reports_expect {t : Token} (h : SingleLine t.toText) :
    (expect t).Reports texts fun _ => True := by
  refine reports_bind reports_next fun actual hactual => ?_
  refine reports_ite (fun _ => reports_malformed ?_) fun _ => reports_pure trivial
  have hbefore : SingleLine ("[Parser] Expected token " ++ t.toText ++ ", got ") :=
    (SingleLine.append (by decide) h).append (by decide)
  exact Error.singleLineUnless_malformed rfl rfl hbefore hactual.singleLineUnless

/-! ## Loops -/

/-- **What every step keeps of the state, the loop ends with**, and it fails as the steps do. -/
theorem reports_loop {step : σ → Parser (σ × Bool)} {initial : σ} {I : σ → Prop}
    (hinitial : I initial) (hstep : ∀ s, I s → (step s).Reports texts fun r => I r.1) :
    (loop initial step).Reports texts I := by
  intro fault tokens hfault htokens
  change FailsOnly _ (runLoop step fault initial tokens) ∧
    ∀ s rest, runLoop step fault initial tokens = .ok (s, rest) → I s
  fun_induction runLoop step fault initial tokens with
  | case1 state tokens e hread =>
      refine ⟨(hstep state hinitial fault tokens hfault htokens).1.of_eq_error hread, ?_⟩
      exact fun s rest hrun => by contradiction
  | case2 state tokens state' more rest' hread _ ih =>
      have hstate' := (hstep state hinitial fault tokens hfault htokens).2 _ _ hread
      exact ih hstate' fun t ht => htokens t (((step state).suffix_of_run hread).subset ht)
  | case3 state tokens state' more rest' hread _ =>
      refine ⟨failsOnly_ok _, fun s rest hrun => ?_⟩
      cases hrun
      exact (hstep state hinitial fault tokens hfault htokens).2 _ _ hread

theorem reports_commaSeparated {item : Parser α} (h : item.Reports texts P) :
    (commaSeparated item).Reports texts fun as => ∀ a ∈ as, P a := by
  refine reports_loop nofun fun as has => reports_bind h fun a ha => ?_
  refine reports_bind (reports_accept _) fun _ _ => reports_pure ?_
  exact List.forall_mem_append.mpr ⟨has, by simpa using ha⟩

end Parser

/-! ## Tokens of a text -/

/-- The text stands between quotes in the other. -/
def QuotedIn (sql s : String) : Prop :=
  .text s ∈ (TokenStream.ofText sql).tokens

/-- Where no token begins a quote is not closed or the character is of no use. -/
theorem Token.take_eq_error {c : Char} {cs : List Char} {cause : SyntaxError}
    (h : take c cs = .error cause) :
    cause = .unterminatedText ∨ cause = .unexpectedCharacter c := by
  unfold take at h
  split at h
  · split at h <;> cases h
    exact .inl rfl
  · split at h
    · contradiction
    · split at h
      · contradiction
      · split at h <;> cases h
        exact .inr rfl

namespace TokenStream

/-- The fault of a text is shown as a single line: the character that it may show is no blank. -/
theorem singleLineUnless_fault {texts : String → Prop} {cs : List Char} {cause : SyntaxError}
    (h : cause ∈ (ofChars cs).fault) : (Error.malformed cause).SingleLineUnless texts := by
  fun_induction ofChars cs with
  | case1 => contradiction
  | case2 cs c rest hcs cause' htake =>
      cases h
      -- the character that is refused is the first after the blanks
      have hhead : c ∈ (cs.dropWhile isBlank).head? := by
        rw [hcs]
        rfl
      have hblank := eq_false_of_mem_head?_dropWhile hhead
      obtain rfl | rfl := Token.take_eq_error htake
      · exact Error.singleLineUnless_of_singleLine (by decide)
      · refine Error.singleLineUnless_of_singleLine (.append (by decide) (.append (by decide) ?_))
        intro d hd
        rw [Char.toString_eq_singleton, String.toList_singleton, List.mem_singleton] at hd
        subst hd
        refine ⟨?_, ?_⟩ <;> rintro rfl <;> exact absurd hblank (by decide)
  | case3 cs c rest hcs token rest' htake ih => exact ih h

/-- What stands between quotes stands in the text. -/
theorem subset_of_text_mem {cs : List Char} {s : String} (h : .text s ∈ (ofChars cs).tokens) :
    s.toList ⊆ cs := by
  fun_induction ofChars cs with
  | case1 => contradiction
  | case2 => contradiction
  | case3 cs c rest hcs token rest' htake ih =>
      obtain ⟨spelled, hspelled, hspells, -⟩ := Token.begins_of_take_eq_ok htake
      have hsuffix : c :: rest ⊆ cs := hcs ▸ (List.dropWhile_suffix isBlank).subset
      rw [hspelled] at hsuffix
      rcases List.mem_cons.mp h with rfl | h
      · cases hspells with
        | text _ =>
            intro c hc
            exact hsuffix (by simp [hc])
      · exact List.Subset.trans (ih h) (List.Subset.trans (List.subset_append_right _ _) hsuffix)

end TokenStream

/-- **A text is a single line if it stands between quotes in one.** -/
theorem QuotedIn.singleLine {sql s : String} (h : QuotedIn sql s) (hsql : SingleLine sql) :
    SingleLine s :=
  hsql.of_subset (TokenStream.subset_of_text_mem h)

end RelStore
