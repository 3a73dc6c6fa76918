import RelStore.Grammar.Statement
import RelStore.Proofs.Grammar.Reading.Change
import RelStore.Proofs.Token.Phrase

/-!
# The grammar is made of phrases

Every parser of the grammar up to `anyStatement` is a phrase.  Above it, `statement` is the one
parser that reads a semicolon and the one that asks for the end of the text, and `run_statement`
says all that it does besides reading a phrase.
-/

namespace RelStore.Grammar

open RelStore.Parser

/-! ## Names and literals -/

theorem phrase_keyword (k : Keyword) : (keyword k).Phrase :=
  phrase_expect nofun

theorem phrase_symbol {s : Symbol} (h : s ≠ .semicolon) : (symbol s).Phrase :=
  phrase_expect fun heq => h (Token.symbol.inj heq)

theorem phrase_acceptKeyword (k : Keyword) : (acceptKeyword k).Phrase :=
  phrase_accept nofun

theorem phrase_name : name.Phrase := by
  refine phrase_next_bind (fun token => ?_) ⟨_, rfl⟩
  split
  next => exact phrase_pure _
  next => exact phrase_ite (phrase_malformed _) (phrase_pure _)
  next => exact phrase_malformed _

theorem phrase_qualifiedFrom (first : String) : (qualifiedFrom first).Phrase := by
  refine phrase_bind (phrase_accept (by decide)) fun _ => phrase_ite ?_ (phrase_pure _)
  exact phrase_bind phrase_name fun _ => phrase_pure _

theorem phrase_columnName : columnName.Phrase :=
  phrase_bind phrase_name fun first => phrase_qualifiedFrom first

theorem phrase_ofResult {α : Type} (result : Except SyntaxError α) : (ofResult result).Phrase := by
  cases result with
  | error cause => exact phrase_malformed cause
  | ok a => exact phrase_pure a

theorem phrase_literal (allowBoolean : Bool) : (literal allowBoolean).Phrase := by
  refine phrase_next_bind (fun token => ?_) ⟨_, rfl⟩
  split
  next => exact phrase_pure _
  next => exact phrase_ofResult _
  next =>
    refine phrase_next_bind (fun token => ?_) ⟨_, rfl⟩
    split
    next => exact phrase_ofResult _
    next => exact phrase_malformed _
  next => exact phrase_pure _
  next => exact phrase_ite (phrase_pure _) (phrase_malformed _)
  next => exact phrase_ite (phrase_pure _) (phrase_malformed _)
  next => exact phrase_ite (phrase_pure _) (phrase_malformed _)
  next => exact phrase_malformed _

theorem phrase_rowCount : rowCount.Phrase := by
  refine phrase_next_bind (fun token => ?_) ⟨_, rfl⟩
  split
  next => exact phrase_ite (phrase_pure _) (phrase_malformed _)
  next => exact phrase_malformed _

theorem phrase_clause? {α : Type} (k : Keyword) {rest : Parser α} (h : rest.Phrase) :
    (clause? k rest).Phrase := by
  refine phrase_bind (phrase_acceptKeyword k) fun _ => phrase_ite ?_ (phrase_pure _)
  exact phrase_bind h fun _ => phrase_pure _

/-! ## Conditions -/

theorem phrase_aggregateCall (functionName : String) : (aggregateCall functionName).Phrase := by
  have hclose : ∀ call : Aggregate, (do symbol .closeParen; return call).Phrase := fun call =>
    phrase_bind (phrase_symbol nofun) fun _ => phrase_pure call
  unfold aggregateCall
  split
  next => exact phrase_malformed _
  next function _ =>
    refine phrase_bind (phrase_accept (by decide)) fun _ => phrase_ite ?_ ?_
    · refine phrase_ite (phrase_malformed _) ?_
      exact hclose _
    · exact phrase_bind phrase_columnName fun column => hclose _

theorem phrase_operand : operand.Phrase := by
  refine phrase_bind phrase_name fun first => phrase_bind (phrase_accept (by decide)) fun _ => ?_
  refine phrase_ite (phrase_bind (phrase_aggregateCall first) fun _ => phrase_pure _) ?_
  exact phrase_bind (phrase_qualifiedFrom first) fun _ => phrase_pure _

theorem phrase_comparison : comparison.Phrase := by
  refine phrase_next_bind (fun token => ?_) ⟨_, rfl⟩
  split
  all_goals first | exact phrase_pure _ | exact phrase_malformed _

theorem phrase_condition : condition.Phrase :=
  phrase_bind phrase_operand fun _ => phrase_bind phrase_comparison fun _ =>
    phrase_bind (phrase_literal true) fun _ => phrase_pure _

theorem phrase_connective? : connective?.Phrase :=
  phrase_bind (phrase_takeIf? rfl) fun _ => phrase_pure _

theorem phrase_conditionGroup : conditionGroup.Phrase := by
  refine phrase_bind phrase_condition fun first => phrase_bind (phrase_loop ?_ _) fun read => ?_
  · rintro ⟨conditions, connective⟩
    refine phrase_bind phrase_connective? fun next => ?_
    split
    next => exact phrase_pure _
    next =>
      refine phrase_ite (phrase_malformed _) ?_
      exact phrase_bind phrase_condition fun _ => phrase_pure _
  · exact phrase_pure _

theorem phrase_equalityTest : equalityTest.Phrase :=
  phrase_bind phrase_name fun _ => phrase_bind (phrase_symbol nofun) fun _ =>
    phrase_bind (phrase_literal true) fun _ => phrase_pure _

/-! ## Declarations -/

theorem phrase_columnType : columnType.Phrase := by
  refine phrase_next_bind (fun token => ?_) ⟨_, rfl⟩
  split
  all_goals first | exact phrase_pure _ | exact phrase_malformed _

theorem phrase_columnDefinition : columnDefinition.Phrase := by
  refine phrase_bind phrase_name fun _ => phrase_bind phrase_columnType fun _ => ?_
  refine phrase_bind (phrase_acceptKeyword _) fun _ => phrase_ite ?_ (phrase_pure _)
  exact phrase_bind (phrase_keyword _) fun _ => phrase_pure _

theorem phrase_keyConstraint : keyConstraint.Phrase :=
  phrase_bind (phrase_keyword _) fun _ => phrase_bind (phrase_symbol nofun) fun _ =>
    phrase_bind phrase_name fun _ => phrase_bind (phrase_symbol nofun) fun _ => phrase_pure _

theorem phrase_tableElement (read : List ColumnDefinition × Option String) :
    (tableElement read).Phrase := by
  refine phrase_bind (phrase_acceptKeyword _) fun _ => phrase_ite ?_ ?_
  · refine phrase_bind phrase_keyConstraint fun _ => phrase_ite (phrase_malformed _) ?_
    exact phrase_bind (phrase_accept (by decide)) fun _ => phrase_pure _
  · refine phrase_bind phrase_columnDefinition fun _ => ?_
    exact phrase_bind (phrase_accept (by decide)) fun _ => phrase_pure _

theorem phrase_createTable : createTable.Phrase := by
  have helements : tableElements.Phrase :=
    tableElements_eq ▸ phrase_loop phrase_tableElement _
  refine phrase_bind (phrase_keyword _) fun _ => phrase_next_bind (fun token => ?_) ⟨_, rfl⟩
  split
  next =>
    refine phrase_bind phrase_name fun _ => phrase_bind (phrase_symbol nofun) fun _ => ?_
    refine phrase_bind helements fun _ => phrase_bind (phrase_symbol nofun) fun _ => ?_
    exact phrase_pure _
  next => exact phrase_malformed _

/-! ## Changes -/

theorem phrase_untilClosed {α : Type} {item : List α → Parser α} (h : ∀ as, (item as).Phrase) :
    (untilClosed item).Phrase := by
  refine phrase_loop (fun as => phrase_bind (h as) fun a => ?_) []
  refine phrase_next_bind (fun token => ?_) ⟨_, rfl⟩
  split
  all_goals first | exact phrase_pure _ | exact phrase_malformed _

theorem phrase_insert : insert.Phrase := by
  refine phrase_bind (phrase_keyword _) fun _ => phrase_bind (phrase_keyword _) fun _ => ?_
  refine phrase_bind phrase_name fun _ => phrase_bind (phrase_symbol nofun) fun _ => ?_
  refine phrase_bind (phrase_untilClosed fun columns => ?_) fun _ => ?_
  · exact phrase_bind phrase_name fun _ => phrase_ite (phrase_malformed _) (phrase_pure _)
  refine phrase_bind (phrase_keyword _) fun _ => phrase_bind (phrase_symbol nofun) fun _ => ?_
  refine phrase_bind (phrase_untilClosed fun _ => phrase_literal false) fun _ => ?_
  exact phrase_ite (phrase_malformed _) (phrase_pure _)

theorem phrase_assignments : assignments.Phrase := by
  refine phrase_loop (fun read => ?_) ∅
  refine phrase_bind phrase_name fun _ => phrase_bind (phrase_symbol nofun) fun _ => ?_
  refine phrase_bind (phrase_literal true) fun _ => phrase_ite (phrase_malformed _) ?_
  exact phrase_bind (phrase_accept (by decide)) fun _ => phrase_pure _

theorem phrase_update : update.Phrase := by
  refine phrase_bind (phrase_keyword _) fun _ => phrase_bind phrase_name fun _ => ?_
  refine phrase_bind (phrase_keyword _) fun _ => phrase_bind phrase_assignments fun _ => ?_
  exact phrase_bind (phrase_clause? _ phrase_equalityTest) fun _ => phrase_pure _

theorem phrase_delete : delete.Phrase := by
  refine phrase_bind (phrase_keyword _) fun _ => phrase_bind (phrase_keyword _) fun _ => ?_
  refine phrase_bind phrase_name fun _ => ?_
  exact phrase_bind (phrase_clause? _ phrase_equalityTest) fun _ => phrase_pure _

/-! ## Queries -/

theorem phrase_outputName? : outputName?.Phrase :=
  phrase_clause? _ phrase_name

theorem phrase_otherName? : otherName?.Phrase := by
  refine phrase_bind (phrase_acceptKeyword _) fun _ => phrase_ite ?_ ?_
  · exact phrase_bind phrase_name fun _ => phrase_pure _
  · refine phrase_bind (phrase_takeIf? rfl) fun token? => ?_
    split
    all_goals exact phrase_pure _

theorem phrase_selectItem : selectItem.Phrase := by
  refine phrase_bind (phrase_accept (by decide)) fun _ => phrase_ite (phrase_pure _) ?_
  refine phrase_bind phrase_name fun first => phrase_bind (phrase_accept (by decide)) fun _ => ?_
  refine phrase_ite ?_ ?_
  · refine phrase_bind (phrase_aggregateCall first) fun _ => ?_
    exact phrase_bind phrase_outputName? fun _ => phrase_pure _
  · refine phrase_bind (phrase_qualifiedFrom first) fun _ => ?_
    exact phrase_bind phrase_outputName? fun _ => phrase_pure _

/-- The word for the kind of a join is looked at before it is read. -/
theorem phrase_joinKind? : joinKind?.Phrase := by
  have hjoin : ∀ kind : Option JoinKind, (do keyword .join; return kind).Phrase := fun kind =>
    phrase_bind (phrase_keyword _) fun _ => phrase_pure kind
  have houter : ∀ (kind : JoinKind) (allowOuter : Bool), ∃ q : Parser (Option JoinKind),
      q.Phrase ∧ joinKind?.outerJoin kind allowOuter = (next >>= fun _ => q) := by
    intro kind allowOuter
    refine ⟨_, phrase_ite ?_ (hjoin kind), rfl⟩
    exact phrase_bind (phrase_acceptKeyword _) fun _ => hjoin kind
  refine phrase_peek?_bind fun token? => ?_
  split
  next => exact .inl (hjoin _)
  next => exact .inr ⟨nofun, houter _ _⟩
  next => exact .inr ⟨nofun, houter _ _⟩
  next => exact .inr ⟨nofun, houter _ _⟩
  next => exact .inr ⟨nofun, houter _ _⟩
  next => exact .inl (phrase_pure _)

theorem phrase_joinAfter (leftQualifier : String) (kind : JoinKind) :
    (joinAfter leftQualifier kind).Phrase := by
  refine phrase_bind phrase_name fun _ => phrase_bind phrase_otherName? fun _ => ?_
  refine phrase_bind (phrase_keyword _) fun _ => phrase_bind phrase_columnName fun _ => ?_
  refine phrase_bind (phrase_symbol nofun) fun _ => phrase_bind phrase_columnName fun _ => ?_
  exact phrase_ite (phrase_pure _) (phrase_pure _)

theorem phrase_joins (leftQualifier : String) : (joins leftQualifier).Phrase := by
  refine phrase_loop (fun read => phrase_bind phrase_joinKind? fun kind? => ?_) []
  split
  next => exact phrase_pure _
  next => exact phrase_bind (phrase_joinAfter _ _) fun _ => phrase_pure _

theorem phrase_sortKey : sortKey.Phrase :=
  phrase_bind (phrase_keyword _) fun _ => phrase_bind phrase_columnName fun _ =>
    phrase_bind (phrase_takeIf? rfl) fun _ => phrase_pure _

theorem phrase_groupColumns : groupColumns.Phrase :=
  phrase_bind (phrase_keyword _) fun _ => phrase_commaSeparated phrase_columnName

theorem phrase_query : query.Phrase := by
  refine phrase_bind (phrase_keyword _) fun _ => phrase_bind (phrase_acceptKeyword _) fun _ => ?_
  refine phrase_bind (phrase_commaSeparated phrase_selectItem) fun _ => ?_
  refine phrase_bind (phrase_keyword _) fun _ => phrase_bind phrase_name fun _ => ?_
  refine phrase_bind phrase_otherName? fun _ => phrase_bind (phrase_joins _) fun _ => ?_
  refine phrase_bind (phrase_clause? _ phrase_conditionGroup) fun _ => ?_
  refine phrase_bind (phrase_clause? _ phrase_groupColumns) fun _ => ?_
  refine phrase_bind (phrase_clause? _ phrase_conditionGroup) fun _ => ?_
  refine phrase_bind (phrase_clause? _ phrase_sortKey) fun _ => ?_
  refine phrase_bind (phrase_clause? _ phrase_rowCount) fun _ => ?_
  exact phrase_bind (phrase_clause? _ phrase_rowCount) fun _ => phrase_pure _

/-! ## Statements -/

/-- **A statement without the semicolon that may close it is a phrase.** -/
theorem phrase_anyStatement : anyStatement.Phrase := by
  refine phrase_peek?_bind fun first => .inl ?_
  split
  next => exact phrase_createTable
  next => exact phrase_bind phrase_query fun _ => phrase_pure _
  next => exact phrase_insert
  next => exact phrase_update
  next => exact phrase_delete
  next => exact phrase_fail nofun

/-- The answer after a statement and a semicolon that may close it: the statement, if this is the
end of the text. -/
def atEnd (s : Statement) : Option SyntaxError → List Token → Except Error (Statement × List Token)
  | none, [] => .ok (s, [])
  | some cause, [] => .error (.malformed cause)
  | _, token :: _ => .error (.malformed (.unexpectedToken token))

theorem atEnd_eq_ok {s s' : Statement} {fault : Option SyntaxError} {tokens rest : List Token}
    (h : atEnd s fault tokens = .ok (s', rest)) :
    fault = none ∧ tokens = [] ∧ s' = s ∧ rest = [] := by
  unfold atEnd at h
  split at h
  next =>
    cases h
    exact ⟨rfl, rfl, rfl, rfl⟩
  next => contradiction
  next => contradiction

theorem neverInternal_atEnd (s : Statement) (fault : Option SyntaxError) (tokens : List Token) :
    NeverInternal (atEnd s fault tokens) := by
  unfold atEnd
  split
  · exact neverInternal_ok _
  · exact neverInternal_error nofun
  · exact neverInternal_error nofun

/-- **After a statement there is a semicolon or not, and then the end of the text.**  A fault of the
text that stands there is reported. -/
theorem run_statement_eq (fault : Option SyntaxError) (tokens : List Token) :
    statement.run fault tokens = (anyStatement.run fault tokens >>= fun read =>
      atEnd read.1 fault
        (if read.2.head? = some (.symbol .semicolon) then read.2.tail else read.2)) := by
  unfold statement
  rw [run_bind]
  cases anyStatement.run fault tokens with
  | error e => rfl
  | ok read =>
      obtain ⟨s, rest⟩ := read
      dsimp only [ok_bind]
      by_cases hsemicolon : rest.head? = some (.symbol .semicolon)
      · rw [if_pos hsemicolon]
        obtain ⟨left, rfl⟩ := List.head?_eq_some_iff.mp hsemicolon
        refine (run_bind_of_ok (run_accept_self _ _)).trans ?_
        cases left <;> cases fault <;> rfl
      · rw [if_neg hsemicolon]
        refine (run_bind_of_ok (run_accept_of_head?_ne hsemicolon)).trans ?_
        cases rest <;> cases fault <;> rfl

end RelStore.Grammar
