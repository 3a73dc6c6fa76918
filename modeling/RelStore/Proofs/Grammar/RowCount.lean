import RelStore.Proofs.Grammar.AcceptedQuery
import RelStore.Proofs.Grammar.LookAhead

/-!
# The numbers of rows of a query

The clauses `LIMIT` and `OFFSET` take a number each.  A number behind one of these words is read for
the clause and for nothing else, since a literal stands behind a symbol.  So another token in its
place is all that the outcome depends on besides: a number that is in range becomes the number of
rows of the same query, and anything else is refused.
-/

namespace RelStore

/-- The clauses with a number of rows. -/
inductive CountClause where
  | limit
  | offset
deriving DecidableEq, Repr

/-- The word that the clause begins with. -/
def CountClause.keyword : CountClause → Keyword
  | limit => .limit
  | offset => .offset

/-- The number of rows in a clause of the query. -/
def Query.count? (q : Query) : CountClause → Option UInt64
  | .limit => q.limit
  | .offset => q.offset

/-- The query with a number of rows in the clause. -/
def Query.withCount (q : Query) : CountClause → UInt64 → Query
  | .limit, count => { q with limit := some count }
  | .offset, count => { q with offset := some count }

/-- The query that a statement is. -/
def Statement.query? : Statement → Option Query
  | select q => some q
  | _ => none

namespace Grammar

open RelStore.Parser

/-- The number of rows that a token is, or why it is none. -/
def countOf : Token → Except SyntaxError UInt64
  | .number whole none =>
    let n := Text.digitsValue whole.toList
    if n < UInt64.size then .ok (.ofNat n) else .error .numeralTooLarge
  | token => .error (.expectedCount token)

variable {fault : Option SyntaxError} {tokens rest : List Token}

theorem run_rowCount_cons (t : Token) (fault : Option SyntaxError) (rest : List Token) :
    rowCount.run fault (t :: rest) = (ofResult (countOf t)).run fault rest := by
  cases t with
  | number whole fraction =>
      cases fraction with
      | some fraction => rfl
      | none =>
          show (if Text.digitsValue whole.toList < UInt64.size
            then pure (UInt64.ofNat (Text.digitsValue whole.toList))
            else malformed .numeralTooLarge : Parser UInt64).run fault rest = _
          dsimp only [countOf]
          by_cases hlt : Text.digitsValue whole.toList < UInt64.size
          · rw [if_pos hlt, if_pos hlt]
            rfl
          · rw [if_neg hlt, if_neg hlt]
            rfl
  | _ => rfl

/-! ## One clause -/

theorem run_countClause_of_keyword {k : Keyword} {t : Token} {n : UInt64} (h : countOf t = .ok n)
    (fault : Option SyntaxError) (rest : List Token) :
    (clause? k rowCount).run fault (.keyword k :: t :: rest) = .ok (some n, rest) := by
  unfold clause? acceptKeyword
  rw [run_bind_of_ok (run_accept_self _ _), if_pos rfl,
    run_bind_of_ok ((run_rowCount_cons t fault rest).trans (by rw [h]; rfl))]
  rfl

theorem run_countClause_eq_error {k : Keyword} {t : Token} {cause : SyntaxError}
    (h : countOf t = .error cause) (fault : Option SyntaxError) (rest : List Token) :
    (clause? k rowCount).run fault (.keyword k :: t :: rest) = .error (.malformed cause) := by
  unfold clause? acceptKeyword
  rw [run_bind_of_ok (run_accept_self _ _), if_pos rfl, run_bind, run_rowCount_cons, h]
  rfl

theorem run_countClause_of_head?_ne {k : Keyword} (h : tokens.head? ≠ some (.keyword k)) :
    (clause? k rowCount).run fault tokens = .ok (none, tokens) := by
  unfold clause? acceptKeyword
  rw [run_bind_of_ok (run_accept_of_head?_ne h)]
  rfl

/-- A clause is read from its word and a number, or there is none. -/
theorem run_countClause_eq_ok {k : Keyword} {count? : Option UInt64}
    (h : (clause? k rowCount).run fault tokens = .ok (count?, rest)) :
    (tokens.head? ≠ some (.keyword k) ∧ count? = none ∧ tokens = rest) ∨
      ∃ t n, countOf t = .ok n ∧ count? = some n ∧ tokens = .keyword k :: t :: rest := by
  by_cases hhead : tokens.head? = some (.keyword k)
  · obtain ⟨tokens, rfl⟩ := List.head?_eq_some_iff.mp hhead
    cases tokens with
    | nil =>
        unfold clause? acceptKeyword at h
        rw [run_bind_of_ok (run_accept_self _ _), if_pos rfl, run_bind] at h
        cases h
    | cons t tokens =>
        cases hcount : countOf t with
        | error cause =>
            rw [run_countClause_eq_error hcount] at h
            cases h
        | ok n =>
            rw [run_countClause_of_keyword hcount] at h
            cases h
            exact .inr ⟨t, n, hcount, rfl, rfl⟩
  · rw [run_countClause_of_head?_ne hhead] at h
    cases h
    exact .inl ⟨hhead, rfl, rfl⟩

/-- A clause takes a number that stands right behind its word, and leaves another one. -/
theorem run_countClause_of_mem {k : Keyword} (hk : k ≠ .null) {before after : List Token}
    {t : Token} (ht : t.opensLiteral = true) {count? : Option UInt64}
    (h : (clause? k rowCount).run fault (before ++ t :: after) = .ok (count?, rest)) :
    (∃ before', rest = before' ++ t :: after) ∨
      before = [.keyword k] ∧ rest = after ∧ ∃ n, countOf t = .ok n ∧ count? = some n := by
  rcases run_countClause_eq_ok h with ⟨-, -, rfl⟩ | ⟨t', n, hcount, rfl, htokens⟩
  · exact .inl ⟨before, rfl⟩
  rcases before with _ | ⟨word, _ | ⟨other, before⟩⟩
  · obtain ⟨rfl, -⟩ := List.cons.inj htokens
    rw [opensLiteral_keyword hk] at ht
    contradiction
  · obtain ⟨hword, htokens⟩ := List.cons.inj htokens
    obtain ⟨rfl, rfl⟩ := List.cons.inj htokens
    subst hword
    exact .inr ⟨rfl, rfl, n, hcount, rfl⟩
  · obtain ⟨-, htokens⟩ := List.cons.inj htokens
    obtain ⟨-, rfl⟩ := List.cons.inj htokens
    exact .inl ⟨before, rfl⟩

/-! ## Both clauses -/

theorem run_counted {q : Query} {limit : Option UInt64}
    (h : (clause? .limit rowCount).run fault tokens = .ok (limit, rest)) :
    (counted q).run fault tokens = (do
      let offset ← clause? .offset rowCount
      return { q with limit, offset } : Parser Query).run fault rest :=
  run_bind_of_ok h

/-- What stands where a token did that was read as the number of rows of a clause. -/
structure CountPlace (clause : CountClause) (before after closing : List Token) (q : Query) :
    Prop where
  /-- A number of rows becomes that of the query. -/
  run_of_ok : ∀ t n, countOf t = .ok n →
    query.run none (before ++ .keyword clause.keyword :: t :: after) =
      .ok (q.withCount clause n, closing)
  /-- Anything else is refused, whatever stands behind it. -/
  run_of_error : ∀ t cause, countOf t = .error cause → ∀ after' fault,
    query.run fault (before ++ .keyword clause.keyword :: t :: after') = .error (.malformed cause)

/-- The number is read for the first clause. -/
theorem countPlace_limit {q : Query} {before after following closing : List Token} {limit : UInt64}
    {offset : Option UInt64}
    (hfront : ∀ fault tokens, Alike (.keyword .limit :: following) tokens →
      queryUncounted.run fault (before ++ tokens) = .ok (q, tokens))
    (hoffset : (clause? .offset rowCount).run none after = .ok (offset, closing)) :
    CountPlace .limit before after closing { q with limit, offset } where
  run_of_ok t n hn := by
    rw [query_eq, CountClause.keyword, run_bind_of_ok (hfront _ _ (alike_cons _ _ _)),
      run_counted (run_countClause_of_keyword hn _ _), run_bind_of_ok hoffset]
    rfl
  run_of_error t cause hcause after' fault := by
    rw [query_eq, CountClause.keyword, run_bind_of_ok (hfront _ _ (alike_cons _ _ _)), counted,
      run_bind, run_countClause_eq_error hcause]

/-- The number is read for the second clause, behind whatever was read for the first. -/
theorem countPlace_offset {q : Query} {before read after following : List Token}
    {limit : Option UInt64} {offset : UInt64}
    (hfront : ∀ fault tokens, Alike (read ++ .keyword .offset :: following) tokens →
      queryUncounted.run fault (before ++ tokens) = .ok (q, tokens))
    (hlimit : ∀ fault tokens, Alike (.keyword .offset :: following) tokens →
      (clause? .limit rowCount).run fault (read ++ tokens) = .ok (limit, tokens)) :
    CountPlace .offset (before ++ read) after after { q with limit, offset } where
  run_of_ok t n hn := by
    rw [query_eq, CountClause.keyword, List.append_assoc,
      run_bind_of_ok (hfront _ _ ((alike_cons _ _ _).append_left read)),
      run_counted (hlimit _ _ (alike_cons _ _ _)),
      run_bind_of_ok (run_countClause_of_keyword hn _ _)]
    rfl
  run_of_error t cause hcause after' fault := by
    rw [query_eq, CountClause.keyword, List.append_assoc,
      run_bind_of_ok (hfront _ _ ((alike_cons _ _ _).append_left read)),
      run_counted (hlimit _ _ (alike_cons _ _ _)),
      run_bind, run_countClause_eq_error hcause]

/-- What stands behind a keyword is left by all that is read before the clauses. -/
theorem run_queryUncounted_of_mem {k : Keyword} {before after : List Token} {t : Token}
    (ht : t.opensLiteral = true) {q : Query}
    (h : queryUncounted.run fault (before ++ .keyword k :: t :: after) = .ok (q, rest)) :
    ∃ read before', before ++ [.keyword k] = read ++ before' ∧ rest = before' ++ t :: after ∧
      ∀ fault' rest', Alike rest rest' →
        queryUncounted.run fault' (read ++ rest') = .ok (q, rest') := by
  obtain ⟨read, hread, hbehind, hagain⟩ := reads_queryUncounted h
  rw [List.append_cons] at hread
  rcases List.append_eq_append_iff.mp hread with ⟨more, rfl, hmore⟩ | ⟨before', hbefore, hrest⟩
  · cases more with
    | nil => exact ⟨_, [], by simp, hmore.symm, hagain⟩
    | cons other more =>
        -- a token that was read would stand behind a symbol
        obtain ⟨rfl, -⟩ := List.cons.inj hmore
        obtain ⟨front, s, hfront⟩ := hbehind _ t more rfl ht
        exact absurd (List.append_inj' hfront rfl).2 (by simp)
  · exact ⟨read, before', hbefore, hrest, hagain⟩

theorem CountClause.keyword_inj (clause clause' : CountClause) {before before' : List Token}
    (h : before ++ [.keyword clause.keyword] = before' ++ [.keyword clause'.keyword]) :
    before = before' ∧ clause = clause' := by
  obtain ⟨rfl, hword⟩ := List.append_inj' h rfl
  refine ⟨rfl, ?_⟩
  cases clause <;> cases clause' <;> first | rfl | simp [CountClause.keyword] at hword

/-- **A number behind the word of a clause was read for that clause.** -/
theorem countPlace_of_run {clause : CountClause} {before after closing : List Token} {t : Token}
    (ht : t.opensLiteral = true) (hclosing : t ∉ closing) {q : Query}
    (h : query.run none (before ++ .keyword clause.keyword :: t :: after) = .ok (q, closing)) :
    CountPlace clause before after closing q ∧
      ∃ n, countOf t = .ok n ∧ q.count? clause = some n := by
  have hleft : ∀ left, closing ≠ left ++ t :: after := by
    rintro left rfl
    exact hclosing (by simp)
  rw [query_eq] at h
  obtain ⟨q₀, middle, hfront, h⟩ := run_bind_eq_ok h
  obtain ⟨limit, middle', hlimit, h⟩ := run_bind_eq_ok h
  obtain ⟨offset, _, hoffset, h⟩ := run_bind_eq_ok h
  cases h
  obtain ⟨read, before', hbefore, rfl, hagain⟩ := run_queryUncounted_of_mem ht hfront
  rcases run_countClause_of_mem (k := .limit) nofun ht hlimit with
    ⟨beforeOffset, rfl⟩ | ⟨rfl, rfl, n, hn, rfl⟩
  · -- the number is left by the first clause, and so read by the second
    obtain ⟨readLimit, hreadLimit, -, hlimitAgain⟩ := reads_countClause (k := .limit) nofun hlimit
    rcases run_countClause_of_mem (k := .offset) nofun ht hoffset with
      ⟨left, hrest⟩ | ⟨rfl, rfl, n, hn, rfl⟩
    · exact absurd hrest (hleft left)
    · obtain rfl : before' = readLimit ++ [.keyword .offset] :=
        List.append_cancel_right (hreadLimit.trans (List.append_assoc ..).symm)
      rw [← List.append_assoc] at hbefore
      obtain ⟨rfl, rfl⟩ := CountClause.keyword_inj _ .offset hbefore
      rw [List.append_assoc] at hagain
      exact ⟨countPlace_offset hagain hlimitAgain, n, hn, rfl⟩
  · obtain ⟨rfl, rfl⟩ := CountClause.keyword_inj _ .limit hbefore
    exact ⟨countPlace_limit hagain hoffset, n, hn, rfl⟩

/-! ## Queries among statements -/

/-- Whatever the parser reads is no query. -/
def NeverSelects (p : Parser Statement) : Prop :=
  ∀ ⦃fault tokens s rest⦄, p.run fault tokens = .ok (s, rest) → s.query? = none

theorem neverSelects_bind {α : Type} {p : Parser α} {f : α → Parser Statement}
    (hf : ∀ a, NeverSelects (f a)) : NeverSelects (p >>= f) := by
  intro fault tokens s rest h
  obtain ⟨a, middle, -, h⟩ := run_bind_eq_ok h
  exact hf a h

theorem neverSelects_pure {s : Statement} (h : s.query? = none) : NeverSelects (pure s) := by
  intro fault tokens s rest hrun
  cases hrun
  exact h

theorem neverSelects_fail (e : Error) : NeverSelects (fail e) := by
  intro fault tokens s rest h
  cases h

theorem neverSelects_createTable : NeverSelects createTable := by
  refine neverSelects_bind fun _ => neverSelects_bind fun token => ?_
  split
  next =>
    exact neverSelects_bind fun _ => neverSelects_bind fun _ => neverSelects_bind fun _ =>
      neverSelects_bind fun _ => neverSelects_pure rfl
  next => exact neverSelects_fail _

theorem neverSelects_insert : NeverSelects insert := by
  refine neverSelects_bind fun _ => neverSelects_bind fun _ => neverSelects_bind fun _ => ?_
  refine neverSelects_bind fun _ => neverSelects_bind fun _ => neverSelects_bind fun _ => ?_
  refine neverSelects_bind fun _ => neverSelects_bind fun values => ?_
  dsimp only
  split
  · exact neverSelects_fail _
  · exact neverSelects_pure rfl

theorem neverSelects_update : NeverSelects update :=
  neverSelects_bind fun _ => neverSelects_bind fun _ => neverSelects_bind fun _ =>
    neverSelects_bind fun _ => neverSelects_bind fun _ => neverSelects_pure rfl

theorem neverSelects_delete : NeverSelects delete :=
  neverSelects_bind fun _ => neverSelects_bind fun _ => neverSelects_bind fun _ =>
    neverSelects_bind fun _ => neverSelects_pure rfl

/-- A query is read behind its word, by the parser of queries. -/
theorem run_anyStatement_eq_select {q : Query}
    (h : anyStatement.run fault tokens = .ok (.select q, rest)) :
    (∃ following, tokens = .keyword .select :: following) ∧
      query.run fault tokens = .ok (q, rest) := by
  obtain ⟨first, tokens', hpeek, h⟩ := run_bind_eq_ok h
  split at h
  next => cases neverSelects_createTable h
  next =>
    obtain ⟨q', middle, hquery, h⟩ := run_bind_eq_ok h
    cases h
    cases tokens with
    | nil => cases fault <;> cases hpeek
    | cons token tokens =>
        cases hpeek
        exact ⟨⟨tokens, rfl⟩, hquery⟩
  next => cases neverSelects_insert h
  next => cases neverSelects_update h
  next => cases neverSelects_delete h
  next => cases neverSelects_fail _ h

theorem run_anyStatement_cons_select (fault : Option SyntaxError) (following : List Token) :
    anyStatement.run fault (.keyword .select :: following) =
      (do return .select (← query) : Parser Statement).run fault
        (.keyword .select :: following) := rfl

end Grammar

end RelStore
