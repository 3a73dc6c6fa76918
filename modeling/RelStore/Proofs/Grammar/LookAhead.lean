import RelStore.Proofs.Grammar.Phrases
import RelStore.Proofs.Token.LookAhead

/-!
# The grammar looks one token ahead

Every parser of the grammar reads the same tokens again before a rest that goes on alike.  Those
without a literal read no token that opens one; in a group of conditions every such token stands
behind a comparison sign or a minus.  That tells the numbers in the conditions of a query from the
numbers of rows behind them, since these stand behind a keyword.
-/

namespace RelStore.Grammar

open RelStore.Parser

/-! ## Names -/

/-- The null is the one keyword that opens a literal. -/
theorem opensLiteral_keyword {k : Keyword} (h : k ≠ .null) :
    (Token.keyword k).opensLiteral = false := by
  cases k <;> first | rfl | exact absurd rfl h

theorem reads_keyword {k : Keyword} (h : k ≠ .null) : (keyword k).Reads Plain :=
  reads_expect (opensLiteral_keyword h)

theorem reads_acceptKeyword {k : Keyword} (h : k ≠ .null) : (acceptKeyword k).Reads Plain :=
  reads_accept (opensLiteral_keyword h)

theorem reads_symbol {s : Symbol} (h : s ≠ .minus) : (symbol s).Reads Plain := by
  refine reads_expect ?_
  cases s <;> first | rfl | exact absurd rfl h

theorem reads_name : name.Reads Plain := by
  refine reads_next_bind composable_plain (fun token => ?_) fun token => ?_
  · split
    next => exact reads_pure nofun _
    next => exact reads_ite (reads_malformed _) (reads_pure nofun _)
    next => exact reads_malformed _
  · cases token with
    | keyword k =>
        by_cases hk : k = .null
        · subst hk
          exact .inr ⟨_, rfl⟩
        · exact .inl (plain_singleton (opensLiteral_keyword hk))
    | word s => exact .inl (plain_singleton rfl)
    | text s => exact .inr ⟨_, rfl⟩
    | number whole fraction => exact .inr ⟨_, rfl⟩
    | symbol s => exact .inr ⟨_, rfl⟩

theorem reads_qualifiedFrom (first : String) : (qualifiedFrom first).Reads Plain := by
  refine reads_bind composable_plain (reads_accept rfl) fun _ => reads_ite ?_ (reads_pure nofun _)
  exact reads_bind composable_plain reads_name fun _ => reads_pure nofun _

theorem reads_columnName : columnName.Reads Plain :=
  reads_bind composable_plain reads_name fun first => reads_qualifiedFrom first

theorem reads_clause? {L : List Token → Prop} (hL : Composable L)
    (hplain : ∀ read, Plain read → L read) {α : Type} {k : Keyword} (h : k ≠ .null)
    {rest : Parser α} (hrest : rest.Reads L) : (clause? k rest).Reads L := by
  refine reads_bind hL ((reads_acceptKeyword h).mono hplain) fun _ => ?_
  exact reads_ite (reads_bind hL hrest fun _ => reads_pure hL.nil _) (reads_pure hL.nil _)

/-- A clause without a literal. -/
theorem reads_plainClause? {α : Type} {k : Keyword} (h : k ≠ .null) {rest : Parser α}
    (hrest : rest.Reads Plain) : (clause? k rest).Reads Plain :=
  reads_clause? composable_plain (fun _ => id) h hrest

/-! ## Literals and numbers of rows -/

/-- What a literal is read from: one token, or a minus sign and a number. -/
def LiteralTokens (read : List Token) : Prop :=
  (∃ t, read = [t]) ∨ ∃ whole fraction, read = [.symbol .minus, .number whole fraction]

theorem reads_ofResult {L : List Token → Prop} (hnil : L []) {α : Type}
    (result : Except SyntaxError α) : (ofResult result).Reads L := by
  cases result with
  | error cause => exact reads_malformed cause
  | ok a => exact reads_pure hnil a

theorem reads_literal (allowBoolean : Bool) : (literal allowBoolean).Reads LiteralTokens := by
  refine reads_next_bind_of fun token => ?_
  have hone : LiteralTokens [token] := .inl ⟨token, rfl⟩
  split
  next => exact reads_pure hone _
  next => exact reads_ofResult hone _
  next =>
    refine reads_next_bind_of fun token => ?_
    split
    next whole fraction => exact reads_ofResult (.inr ⟨whole, fraction, rfl⟩) _
    next => exact reads_malformed _
  next => exact reads_pure hone _
  next => exact reads_ite (reads_pure hone _) (reads_malformed _)
  next => exact reads_ite (reads_pure hone _) (reads_malformed _)
  next => exact reads_ite (reads_pure hone _) (reads_malformed _)
  next => exact reads_malformed _

theorem reads_rowCount : rowCount.Reads fun read => ∃ whole, read = [.number whole none] := by
  refine reads_next_bind_of fun token => ?_
  split
  next whole => exact reads_ite (reads_pure ⟨whole, rfl⟩ _) (reads_malformed _)
  next => exact reads_malformed _

/-! ## Conditions -/

theorem reads_aggregateCall (functionName : String) : (aggregateCall functionName).Reads Plain := by
  have hclose : ∀ call : Aggregate, (do symbol .closeParen; return call).Reads Plain := fun call =>
    reads_bind composable_plain (reads_symbol nofun) fun _ => reads_pure nofun call
  unfold aggregateCall
  split
  next => exact reads_malformed _
  next function _ =>
    refine reads_bind composable_plain (reads_accept rfl) fun _ => reads_ite ?_ ?_
    · exact reads_ite (reads_malformed _) (hclose _)
    · exact reads_bind composable_plain reads_columnName fun column => hclose _

theorem reads_operand : operand.Reads Plain := by
  refine reads_bind composable_plain reads_name fun first => ?_
  refine reads_bind composable_plain (reads_accept rfl) fun _ => reads_ite ?_ ?_
  · exact reads_bind composable_plain (reads_aggregateCall first) fun _ => reads_pure nofun _
  · exact reads_bind composable_plain (reads_qualifiedFrom first) fun _ => reads_pure nofun _

/-- A comparison sign is a symbol other than the minus. -/
theorem reads_comparison : comparison.Reads fun read => ∃ s, read = [.symbol s] ∧ s ≠ .minus := by
  refine reads_next_bind_of fun token => ?_
  split
  all_goals first | exact reads_malformed _ | exact reads_pure ⟨_, rfl, nofun⟩ _

/-- A literal behind a comparison sign stands behind symbols. -/
theorem behindSymbols_literal {s : Symbol} (hs : s ≠ .minus) {read : List Token}
    (h : LiteralTokens read) : BehindSymbols (.symbol s :: read) := by
  intro before t after heq ht
  cases before with
  | nil =>
      obtain ⟨rfl, -⟩ := List.cons.inj heq
      cases s <;> first | exact absurd rfl hs | contradiction
  | cons first before =>
      obtain ⟨rfl, hread⟩ := List.cons.inj heq
      cases before with
      | nil => exact ⟨[], s, rfl⟩
      | cons second before =>
          -- a second token of the literal is the number behind a minus sign
          rcases h with ⟨t', rfl⟩ | ⟨whole, fraction, rfl⟩
          · simp at hread
          · obtain ⟨rfl, hnumber⟩ := List.cons.inj hread
            cases before with
            | nil => exact ⟨[.symbol s], .minus, rfl⟩
            | cons third before => simp at hnumber

theorem reads_condition : condition.Reads BehindSymbols := by
  have hliteral : ∀ left sign, (do return ⟨left, sign, ← literal true⟩ : Parser Condition).Reads
      LiteralTokens := fun _ _ =>
    reads_bind_of (reads_literal true) (fun _ => reads_pure (L := (· = [])) rfl _)
      fun h hnil => by rwa [hnil, List.append_nil]
  refine reads_bind composable_behindSymbols (reads_operand.mono fun _ => Plain.behindSymbols) ?_
  refine fun left => reads_bind_of reads_comparison (hliteral left) ?_
  rintro _ read ⟨s, rfl, hs⟩ hread
  exact behindSymbols_literal hs hread

/-- A keyword that is looked for is not the one that is a literal. -/
theorem beq_keyword_eq_false {t : Token} (ht : t.opensLiteral = true) (k : Keyword)
    (hk : k ≠ .null) : (t == .keyword k) = false := by
  rw [beq_eq_false_iff_ne]
  rintro rfl
  rw [opensLiteral_keyword hk] at ht
  contradiction

theorem reads_connective? : connective?.Reads Plain := by
  refine reads_bind composable_plain (reads_takeIf? fun t ht => ?_) fun _ => reads_pure nofun _
  rw [beq_keyword_eq_false ht .and nofun, beq_keyword_eq_false ht .or nofun, Bool.or_self]

/-- Reads one more condition and the connective before it, if there is one. -/
def nextCondition (read : List Condition × Option Connective) :
    Parser ((List Condition × Option Connective) × Bool) := do
  match ← connective? with
  | none => return (read, false)
  | some next =>
    if read.2.any (· ≠ next) then malformed .mixedConnectives
    return ((read.1 ++ [← condition], some next), true)

theorem conditionGroup_eq : conditionGroup = do
    let first ← condition
    let (conditions, connective) ← loop ([first], none) nextCondition
    return ⟨connective.getD .and, conditions⟩ := rfl

theorem reads_nextCondition (read : List Condition × Option Connective) :
    (nextCondition read).Reads BehindSymbols := by
  refine reads_bind composable_behindSymbols
    (reads_connective?.mono fun _ => Plain.behindSymbols) fun next => ?_
  split
  next => exact reads_pure composable_behindSymbols.nil _
  next =>
    refine reads_ite (reads_malformed _) ?_
    exact reads_bind composable_behindSymbols reads_condition fun _ =>
      reads_pure composable_behindSymbols.nil _

theorem reads_conditionGroup : conditionGroup.Reads BehindSymbols := by
  rw [conditionGroup_eq]
  refine reads_bind composable_behindSymbols reads_condition fun first => ?_
  refine reads_bind composable_behindSymbols
    (reads_loop composable_behindSymbols reads_nextCondition _) fun read => ?_
  exact reads_pure composable_behindSymbols.nil _

theorem reads_equalityTest : equalityTest.Reads fun _ => True := by
  refine reads_bind_any reads_name fun _ => ?_
  refine reads_bind_any (reads_symbol (s := .equal) nofun) fun _ => ?_
  refine reads_bind_any (reads_literal true) fun _ => ?_
  exact reads_pure trivial _

/-! ## Declarations -/

theorem reads_columnType : columnType.Reads Plain := by
  refine reads_next_bind_of fun token => ?_
  split
  all_goals first | exact reads_malformed _ | exact reads_pure (plain_singleton rfl) _

theorem reads_columnDefinition : columnDefinition.Reads Plain := by
  refine reads_bind composable_plain reads_name fun _ => ?_
  refine reads_bind composable_plain reads_columnType fun _ => ?_
  refine reads_bind composable_plain (reads_acceptKeyword nofun) fun _ => ?_
  refine reads_ite ?_ (reads_pure nofun _)
  exact reads_bind composable_plain (reads_keyword nofun) fun _ => reads_pure nofun _

theorem reads_keyConstraint : keyConstraint.Reads Plain := by
  refine reads_bind composable_plain (reads_keyword nofun) fun _ => ?_
  refine reads_bind composable_plain (reads_symbol nofun) fun _ => ?_
  refine reads_bind composable_plain reads_name fun _ => ?_
  exact reads_bind composable_plain (reads_symbol nofun) fun _ => reads_pure nofun _

theorem reads_tableElement (read : List ColumnDefinition × Option String) :
    (tableElement read).Reads Plain := by
  refine reads_bind composable_plain (reads_acceptKeyword nofun) fun _ => reads_ite ?_ ?_
  · refine reads_bind composable_plain reads_keyConstraint fun _ => ?_
    refine reads_ite (reads_malformed _) ?_
    exact reads_bind composable_plain (reads_accept rfl) fun _ => reads_pure nofun _
  · refine reads_bind composable_plain reads_columnDefinition fun _ => ?_
    exact reads_bind composable_plain (reads_accept rfl) fun _ => reads_pure nofun _

theorem reads_createTable : createTable.Reads Plain := by
  have helements : tableElements.Reads Plain :=
    tableElements_eq ▸ reads_loop composable_plain reads_tableElement _
  refine reads_bind composable_plain (reads_keyword nofun) fun _ => ?_
  refine reads_next_bind_of fun token => ?_
  split
  next =>
    refine Reads.mono (L := Plain) ?_ fun _ => composable_plain.append (plain_singleton rfl)
    refine reads_bind composable_plain reads_name fun _ => ?_
    refine reads_bind composable_plain (reads_symbol nofun) fun _ => ?_
    refine reads_bind composable_plain helements fun _ => ?_
    exact reads_bind composable_plain (reads_symbol nofun) fun _ => reads_pure nofun _
  next => exact reads_malformed _

/-! ## Changes -/

/-- Reads the sign behind an item: a comma, or the parenthesis that closes the list. -/
def itemEnd {α : Type} (items : List α) : Parser (List α × Bool) := do
  match ← next with
  | .symbol .closeParen => return (items, false)
  | .symbol .comma => return (items, true)
  | token => malformed (.unexpectedToken token)

theorem untilClosed_eq {α : Type} (item : List α → Parser α) :
    untilClosed item = loop [] fun items => item items >>= fun a => itemEnd (items ++ [a]) := rfl

theorem reads_itemEnd {α : Type} (items : List α) : (itemEnd items).Reads Plain := by
  refine reads_next_bind_of fun token => ?_
  split
  all_goals first | exact reads_malformed _ | exact reads_pure (plain_singleton rfl) _

theorem reads_untilClosed {α : Type} {item : List α → Parser α}
    (h : ∀ items, (item items).Reads Plain) : (untilClosed item).Reads Plain := by
  rw [untilClosed_eq]
  exact reads_loop composable_plain (fun items => reads_bind composable_plain (h items)
    fun _ => reads_itemEnd _) []

/-! ## Queries -/

theorem reads_outputName? : outputName?.Reads Plain :=
  reads_plainClause? (k := .asWord) nofun reads_name

theorem reads_otherName? : otherName?.Reads Plain := by
  refine reads_bind composable_plain (reads_acceptKeyword nofun) fun _ => reads_ite ?_ ?_
  · exact reads_bind composable_plain reads_name fun _ => reads_pure nofun _
  · refine reads_bind composable_plain (reads_takeIf? fun t ht => ?_) fun token? => ?_
    · cases t <;> first | rfl | contradiction
    · split
      all_goals exact reads_pure nofun _

theorem reads_selectItem : selectItem.Reads Plain := by
  refine reads_bind composable_plain (reads_accept rfl) fun _ => reads_ite (reads_pure nofun _) ?_
  refine reads_bind composable_plain reads_name fun first => ?_
  refine reads_bind composable_plain (reads_accept rfl) fun _ => reads_ite ?_ ?_
  · refine reads_bind composable_plain (reads_aggregateCall first) fun _ => ?_
    exact reads_bind composable_plain reads_outputName? fun _ => reads_pure nofun _
  · refine reads_bind composable_plain (reads_qualifiedFrom first) fun _ => ?_
    exact reads_bind composable_plain reads_outputName? fun _ => reads_pure nofun _

/-- No join begins with a token that opens a literal. -/
theorem reads_joinKind? : joinKind?.Reads Plain := by
  have hjoin : ∀ kind : Option JoinKind, (do keyword .join; return kind).Reads Plain := fun kind =>
    reads_bind composable_plain (reads_keyword nofun) fun _ => reads_pure nofun kind
  have houter : ∀ (kind : JoinKind) (allowOuter : Bool), ∃ q : Parser (Option JoinKind),
      q.Reads Plain ∧ joinKind?.outerJoin kind allowOuter = (next >>= fun _ => q) := by
    intro kind allowOuter
    refine ⟨_, reads_ite ?_ (hjoin kind), rfl⟩
    exact reads_bind composable_plain (reads_acceptKeyword nofun) fun _ => hjoin kind
  refine reads_peek?_bind (fun token? => ?_) ⟨pure none, fun t ht => ?_⟩
  · split
    next => exact .inl (hjoin _)
    next =>
      obtain ⟨q, hq, heq⟩ := houter .inner false
      exact .inr ⟨_, q, rfl, rfl, hq, heq⟩
    next =>
      obtain ⟨q, hq, heq⟩ := houter .left true
      exact .inr ⟨_, q, rfl, rfl, hq, heq⟩
    next =>
      obtain ⟨q, hq, heq⟩ := houter .right true
      exact .inr ⟨_, q, rfl, rfl, hq, heq⟩
    next =>
      obtain ⟨q, hq, heq⟩ := houter .full true
      exact .inr ⟨_, q, rfl, rfl, hq, heq⟩
    next => exact .inl (reads_pure nofun _)
  · split
    all_goals first | rfl | (rename_i heq; cases heq; contradiction)

theorem reads_joinAfter (leftQualifier : String) (kind : JoinKind) :
    (joinAfter leftQualifier kind).Reads Plain := by
  refine reads_bind composable_plain reads_name fun _ => ?_
  refine reads_bind composable_plain reads_otherName? fun _ => ?_
  refine reads_bind composable_plain (reads_keyword nofun) fun _ => ?_
  refine reads_bind composable_plain reads_columnName fun _ => ?_
  refine reads_bind composable_plain (reads_symbol nofun) fun _ => ?_
  refine reads_bind composable_plain reads_columnName fun _ => ?_
  exact reads_ite (reads_pure nofun _) (reads_pure nofun _)

theorem reads_joins (leftQualifier : String) : (joins leftQualifier).Reads Plain := by
  refine reads_loop composable_plain (fun read => ?_) []
  refine reads_bind composable_plain reads_joinKind? fun kind? => ?_
  split
  next => exact reads_pure nofun _
  next => exact reads_bind composable_plain (reads_joinAfter _ _) fun _ => reads_pure nofun _

theorem reads_sortKey : sortKey.Reads Plain := by
  refine reads_bind composable_plain (reads_keyword nofun) fun _ => ?_
  refine reads_bind composable_plain reads_columnName fun _ => ?_
  refine reads_bind composable_plain (reads_takeIf? fun t ht => ?_) fun _ => reads_pure nofun _
  rw [beq_keyword_eq_false ht .asc nofun, beq_keyword_eq_false ht .desc nofun, Bool.or_self]

theorem reads_groupColumns : groupColumns.Reads Plain :=
  reads_bind composable_plain (reads_keyword nofun) fun _ => reads_commaSeparated reads_columnName

/-- Reads a query up to its numbers of rows. -/
def queryUncounted : Parser Query := do
  keyword .select
  let distinct ← acceptKeyword .distinct
  let items ← commaSeparated selectItem
  keyword .fromWord
  let table ← name
  let source : TableReference := ⟨table, ← otherName?⟩
  let joins ← joins source.qualifier
  let filter ← clause? .whereWord conditionGroup
  let groupBy ← clause? .group groupColumns
  let having ← clause? .having conditionGroup
  let orderBy ← clause? .order sortKey
  return { distinct, items, source, joins, filter, groupBy, having, orderBy,
           limit := none, offset := none }

/-- Reads the numbers of rows of a query. -/
def counted (q : Query) : Parser Query := do
  let limit ← clause? .limit rowCount
  let offset ← clause? .offset rowCount
  return { q with limit, offset }

theorem reads_countClause {k : Keyword} (hk : k ≠ .null) :
    (clause? k rowCount).Reads fun _ => True :=
  reads_clause? composable_true (fun _ _ => trivial) hk (reads_rowCount.mono fun _ _ => trivial)

theorem query_eq : query = queryUncounted >>= counted := by
  simp only [queryUncounted, Parser.bind_assoc]
  rfl

theorem reads_conditions {k : Keyword} (hk : k ≠ .null) :
    (clause? k conditionGroup).Reads BehindSymbols :=
  reads_clause? composable_behindSymbols (fun _ => Plain.behindSymbols) hk reads_conditionGroup

/-- **A number that a query is read with before its numbers of rows stands behind a symbol.** -/
theorem reads_queryUncounted : queryUncounted.Reads BehindSymbols := by
  have hplain : ∀ {α : Type} {p : Parser α} {f : α → Parser Query}, p.Reads Plain →
      (∀ a, (f a).Reads BehindSymbols) → (p >>= f).Reads BehindSymbols := fun hp hf =>
    reads_bind composable_behindSymbols (hp.mono fun _ => Plain.behindSymbols) hf
  refine hplain (reads_keyword nofun) fun _ => ?_
  refine hplain (reads_acceptKeyword nofun) fun _ => ?_
  refine hplain (reads_commaSeparated reads_selectItem) fun _ => ?_
  refine hplain (reads_keyword nofun) fun _ => ?_
  refine hplain reads_name fun _ => hplain reads_otherName? fun _ => ?_
  refine hplain (reads_joins _) fun _ => ?_
  refine reads_bind composable_behindSymbols (reads_conditions (k := .whereWord) nofun) fun _ => ?_
  refine hplain (reads_plainClause? (k := .group) nofun reads_groupColumns) fun _ => ?_
  refine reads_bind composable_behindSymbols (reads_conditions (k := .having) nofun) fun _ => ?_
  refine hplain (reads_plainClause? (k := .order) nofun reads_sortKey) fun _ => ?_
  exact reads_pure composable_behindSymbols.nil _

end RelStore.Grammar
