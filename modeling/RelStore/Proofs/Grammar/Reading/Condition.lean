import RelStore.Grammar.Condition
import RelStore.Proofs.Grammar.Reading.Basic

/-!
# Reading conditions

A condition ends with its literal, so what follows does not matter to it.  A group goes on with
its connective; it is read to its end when the rest begins with neither connective.
-/

namespace RelStore

open RelStore.Parser
open Lexeme

namespace Grammar

variable {fault : Option SyntaxError} {rest : List Token}

/-! ## Calls -/

theorem token_name_ne_symbol (s : String) (x : Symbol) : (Lexeme.name s).token ≠ .symbol x := by
  simp only [Lexeme.name, Token.ofWord]
  split <;> simp

/-- The tokens between the parentheses of a call. -/
def argumentTokens (call : Aggregate) : List Token :=
  tokens ((call.column.map columnLexemes).getD [.symbol .asterisk])

theorem tokens_callLexemes (functionName : String) (call : Aggregate) (rest : List Token) :
    tokens (callLexemes functionName call) ++ rest =
      (Lexeme.name functionName).token :: .symbol .openParen ::
        (argumentTokens call ++ .symbol .closeParen :: rest) := by
  simp [callLexemes, parenthesized, separatedBy, argumentTokens]

theorem run_aggregateCall {call : Aggregate} (hcall : call.WellFormed) {functionName : String}
    (h : AggregateFunction.ofName? functionName = some call.function) :
    (aggregateCall functionName).run fault (argumentTokens call ++ .symbol .closeParen :: rest) =
      .ok (call, rest) := by
  obtain ⟨function, column⟩ := call
  unfold aggregateCall argumentTokens
  rw [h]
  cases column with
  | none =>
      obtain rfl : function = .count := hcall.eq_count rfl
      show (accept (.symbol .asterisk) >>= _).run fault
        (.symbol .asterisk :: .symbol .closeParen :: rest) = _
      rw [run_bind_of_ok (run_accept_self _ _), if_pos rfl]
      dsimp only
      rw [if_neg (by simp), run_bind_of_ok (run_symbol _ _)]
      rfl
  | some column =>
      have hcolumn := hcall.isColumn column rfl
      obtain ⟨first, suffix, -, htokens, -, -⟩ := exists_first_of_isColumn hcolumn
      have hhead : (tokens (columnLexemes column) ++ .symbol .closeParen :: rest).head? ≠
          some (.symbol .asterisk) := by
        rw [htokens]
        simpa using token_name_ne_symbol first _
      show (accept (.symbol .asterisk) >>= _).run fault
        (tokens (columnLexemes column) ++ .symbol .closeParen :: rest) = _
      rw [run_bind_of_ok (run_accept_of_head?_ne hhead), if_neg (by simp),
        run_bind_of_ok (run_columnName hcolumn (by simp)), run_bind_of_ok (run_symbol _ _)]
      rfl

/-! ## Conditions -/

theorem run_operand {o : Operand} (h : o.WellFormed)
    (hrest : rest.head? ≠ some (.symbol .openParen) ∧ rest.head? ≠ some (.symbol .period)) :
    operand.run fault (tokens o.lexemes ++ rest) = .ok (o, rest) := by
  unfold operand
  cases o with
  | column column =>
      obtain ⟨first, suffix, hfirst, htokens, hsuffix, hread⟩ := exists_first_of_isColumn h
      have hhead : (suffix ++ rest).head? ≠ some (.symbol .openParen) := by
        rcases hsuffix with rfl | hsuffix
        · exact hrest.1
        · simp [List.head?_append, hsuffix]
      rw [Operand.lexemes, htokens, List.cons_append, run_bind_of_ok (run_name hfirst _),
        run_bind_of_ok (run_accept_of_head?_ne hhead), if_neg (by simp),
        run_bind_of_ok (hread hrest.2)]
      rfl
  | aggregate call =>
      have hfunction := AggregateFunction.ofName?_name call.function
      rw [Operand.lexemes, tokens_callLexemes,
        run_bind_of_ok (run_name (AggregateFunction.isName_of_ofName? hfunction) _),
        run_bind_of_ok (run_accept_self _ _), if_pos rfl,
        run_bind_of_ok (run_aggregateCall h hfunction)]
      rfl

theorem run_comparison (c : Comparison) (rest : List Token) :
    comparison.run fault (.symbol c.symbol :: rest) = .ok (c, rest) := by
  unfold comparison
  rw [run_bind_of_ok (run_next_cons _ _ _)]
  cases c <;> rfl

theorem run_condition {c : Condition} (h : c.WellFormed Value.Spellable) (rest : List Token) :
    condition.run fault (tokens c.lexemes ++ rest) = .ok (c, rest) := by
  have hsymbol : ∀ s : Symbol, s ≠ .openParen → s ≠ .period →
      ∀ tokens, (Token.symbol s :: tokens).head? ≠ some (.symbol .openParen) ∧
        (Token.symbol s :: tokens).head? ≠ some (.symbol .period) := by
    intro s hparen hperiod tokens
    simp [hparen, hperiod]
  have hcomparison := hsymbol c.comparison.symbol (by cases c.comparison <;> decide)
    (by cases c.comparison <;> decide)
  unfold condition Condition.lexemes
  rw [tokens_append, tokens_cons, token_symbol, List.append_assoc, List.cons_append,
    run_bind_of_ok (run_operand h.operand (hcomparison _)),
    run_bind_of_ok (run_comparison _ _),
    run_bind_of_ok (run_literal h.literal (.inl rfl) _)]
  rfl

theorem run_equalityTest {test : EqualityTest} (h : test.WellFormed Value.Spellable)
    (rest : List Token) :
    equalityTest.run fault (tokens test.lexemes ++ rest) = .ok (test, rest) := by
  unfold equalityTest EqualityTest.lexemes
  rw [tokens_cons, tokens_cons, List.cons_append, List.cons_append,
    run_bind_of_ok (run_name h.isName _), token_symbol, run_bind_of_ok (run_symbol _ _),
    run_bind_of_ok (run_literal h.literal (.inl rfl) _)]
  rfl

/-! ## Groups -/

theorem run_connective?_keyword (c : Connective) (rest : List Token) :
    connective?.run fault (.keyword c.keyword :: rest) = .ok (some c, rest) := by
  unfold connective?
  rw [run_bind_of_ok (run_takeIf?_cons (by cases c <;> decide) _)]
  cases c <;> rfl

theorem run_connective?_of_head?_ne (hand : rest.head? ≠ some (.keyword .and))
    (hor : rest.head? ≠ some (.keyword .or)) :
    connective?.run fault rest = .ok (none, rest) := by
  have hhead : ∀ token ∈ rest.head?, (token == .keyword .and || token == .keyword .or) = false := by
    intro token htoken
    rw [Bool.or_eq_false_iff, beq_eq_false_iff_ne, beq_eq_false_iff_ne]
    exact ⟨fun heq => hand (heq ▸ htoken), fun heq => hor (heq ▸ htoken)⟩
  unfold connective?
  rw [run_bind_of_ok (run_takeIf?_of_head? hhead)]
  rfl

/-- Conditions read with one connective are appended, and leave it as the one read last. -/
theorem foldl_conditions (connective : Connective) (before : List Condition)
    (last : Option Connective) (conditions : List Condition) :
    conditions.foldl (fun s c => (s.1 ++ [c], some connective)) (before, last) =
      (before ++ conditions, if conditions = [] then last else some connective) := by
  induction conditions generalizing before last with
  | nil => simp
  | cons c conditions ih =>
      rw [List.foldl_cons, ih]
      simp

/-- **A group is read with all its conditions under its connective.** -/
theorem run_conditionGroup {group : ConditionGroup} (h : group.WellFormed Value.Spellable)
    (hand : rest.head? ≠ some (.keyword .and)) (hor : rest.head? ≠ some (.keyword .or)) :
    conditionGroup.run fault (tokens group.lexemes ++ rest) = .ok (group, rest) := by
  obtain ⟨connective, conditions⟩ := group
  cases conditions with
  | nil => exact absurd rfl h.ne_nil
  | cons first conditions =>
      have hcondition := h.condition
      unfold conditionGroup ConditionGroup.lexemes
      rw [tokens_separatedBy, List.append_assoc,
        run_bind_of_ok (run_condition (hcondition first List.mem_cons_self) _)]
      -- the connective read so far is none or the group's
      refine (run_bind_of_ok (run_loop_flatMap
        (fun c => .keyword connective.keyword :: tokens (Condition.lexemes c))
        (fun s c => (s.1 ++ [c], some connective))
        (fun s cs => (∀ c ∈ s.2, c = connective) ∧ cs ⊆ first :: conditions)
        ?_ ?_ ?_ ?_ ?_)).trans ?_
      · simp
      · intro s c cs hs
        exact ⟨by simp, (List.cons_subset.mp hs.2).2⟩
      · intro s c cs hs
        have hsame : ¬ s.2.any (· ≠ connective) = true := by
          cases hconnective : s.2 with
          | none => simp
          | some c' => simp [hs.1 c' hconnective]
        rw [List.cons_append, run_bind_of_ok (run_connective?_keyword _ _)]
        dsimp only
        rw [if_neg hsame, run_bind_of_ok (run_condition (hcondition c (hs.2 List.mem_cons_self)) _)]
        rfl
      · intro s _
        rw [run_bind_of_ok (run_connective?_of_head?_ne hand hor)]
        rfl
      · exact ⟨nofun, List.subset_cons_self _ _⟩
      · rw [foldl_conditions]
        cases conditions with
        | nil =>
            have hand : connective = .and := h.eq_and rfl
            rw [hand]
            rfl
        | cons c cs => rfl

end Grammar

end RelStore
