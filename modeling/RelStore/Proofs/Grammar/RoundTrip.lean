import RelStore.Grammar.Statement
import RelStore.Proofs.Grammar.Reading.Query

/-!
# Printing and reading statements

A well-formed statement is what its text is read as.  The text is read as the tokens of its lexemes,
and these are read by the parser of the statement's kind, which their first token tells.

The layout of the text is free as long as it separates the lexemes, and so is the order of the sides
of a join of which the right one alone is a column of the joined table.
-/

namespace RelStore

open RelStore.Parser
open Lexeme

namespace Grammar

theorem run_statement {s : Statement} {tokens : List Token}
    (h : anyStatement.run none tokens = .ok (s, [])) :
    statement.run none tokens = .ok (s, []) := by
  unfold statement
  rw [run_bind_of_ok h]
  rfl

end Grammar

namespace Statement

open Grammar

/-- The first token is looked at and left to the parser of the kind it tells. -/
theorem run_anyStatement_keyword (following : List Token) :
    anyStatement.run none (.keyword .create :: following) =
        Grammar.createTable.run none (.keyword .create :: following) ∧
      anyStatement.run none (.keyword .insert :: following) =
        Grammar.insert.run none (.keyword .insert :: following) ∧
      anyStatement.run none (.keyword .update :: following) =
        Grammar.update.run none (.keyword .update :: following) ∧
      anyStatement.run none (.keyword .delete :: following) =
        Grammar.delete.run none (.keyword .delete :: following) ∧
      anyStatement.run none (.keyword .select :: following) =
        (do return .select (← query) : Parser Statement).run none
          (.keyword .select :: following) := by
  unfold anyStatement
  refine ⟨?_, ?_, ?_, ?_, ?_⟩ <;> rw [run_bind_of_ok (run_peek?_cons _ _ _)]

theorem run_anyStatement_select {q : Query} (h : q.WellFormed Value.Spellable) {joins : List Join}
    (hjoins : SomeReversed q.joins joins) :
    anyStatement.run none (tokens ({ q with joins } : Query).lexemes) = .ok (.select q, []) := by
  exact (run_anyStatement_keyword _).2.2.2.2.trans (run_bind_of_ok (run_query h hjoins))

theorem run_anyStatement {s : Statement} (h : s.WellFormed Value.Spellable) :
    anyStatement.run none (tokens s.lexemes) = .ok (s, []) := by
  rw [← List.append_nil (tokens s.lexemes)]
  cases s with
  | createTable name columns key =>
      exact (run_anyStatement_keyword _).1.trans (run_createTable h [])
  | insert table columns values =>
      exact (run_anyStatement_keyword _).2.1.trans (run_insert h [])
  | update table assignments test =>
      exact (run_anyStatement_keyword _).2.2.1.trans (run_update h (headIn_nil []) (by simp))
  | delete table test =>
      exact (run_anyStatement_keyword _).2.2.2.1.trans (run_delete h (by simp))
  | select q =>
      rw [List.append_nil]
      exact run_anyStatement_select h (List.forall₂_same.mpr fun j _ => .inl rfl)

/-- **The text of a well-formed statement is read as it**, in any layout that separates lexemes. -/
theorem parse_layOut {apart : Lexeme → Lexeme → Bool} (hapart : Separates apart) {s s' : Statement}
    (h : s.WellFormed Value.Spellable) (hs : s.SidesExchanged s') :
    parse (layOut apart s'.lexemes) = .ok s := by
  have hspelled : AllSpelled s'.lexemes := by
    cases hs with
    | refl => exact allSpelled_lexemes h
    | select hjoins => exact Query.allSpelled_lexemes h hjoins
  have hrun : anyStatement.run none (tokens s'.lexemes) = .ok (s, []) := by
    cases hs with
    | refl => exact run_anyStatement h
    | select hjoins => exact run_anyStatement_select h hjoins
  calc parse (layOut apart s'.lexemes)
      = (statement.run none (tokens s'.lexemes)).map (·.1) := by
        unfold parse ofTokens
        rw [ofText_layOut hapart hspelled]
        rfl
    _ = .ok s := by
        rw [run_statement hrun]
        rfl

/-- **A well-formed statement is what its canonical spelling is read as**, also with the sides of
joins exchanged where only the right one is a column of the joined table. -/
theorem parse_render {s : Statement} (h : s.WellFormed Value.Spellable) :
    parse s.render = .ok s ∧
      ∀ q joins, s = .select q → SomeReversed q.joins joins →
        parse (Statement.select { q with joins }).render = .ok s := by
  refine ⟨parse_layOut separates_standsApart h (.refl s), ?_⟩
  rintro q joins rfl hjoins
  exact parse_layOut separates_standsApart h (.select hjoins)

/-- A query of a table named by a keyword, joined the other way round. -/
theorem parse_render_leftJoin :
    let q : Query :=
      { distinct := true
        items := [.column "left.a" "limit", .aggregate ⟨.sum, some "u.b"⟩ "sum(u.b)"]
        source := ⟨"left", none⟩
        joins := [⟨"t", .left, "left.a", "u.a", "left", "u"⟩]
        filter := some ⟨.or, [⟨.column "a", .lessOrEqual, .integer (-9223372036854775808)⟩,
          ⟨.column "c", .equal, .boolean true⟩]⟩
        groupBy := some ["left.a"]
        having := none
        orderBy := some ⟨"limit", .descending⟩
        limit := some 3
        offset := none }
    let reversed : Query := { q with joins := [⟨"t", .left, "u.a", "left.a", "left", "u"⟩] }
    Statement.parse (Statement.select q).render = .ok (.select q) ∧
      Statement.parse (Statement.select reversed).render = .ok (.select q) := by
  intro q reversed
  have ha : IsName "a" := .word (by decide +kernel) (by decide +kernel)
  have hb : IsName "b" := .word (by decide +kernel) (by decide +kernel)
  have hc : IsName "c" := .word (by decide +kernel) (by decide +kernel)
  have ht : IsName "t" := .word (by decide +kernel) (by decide +kernel)
  have hu : IsName "u" := .word (by decide +kernel) (by decide +kernel)
  have hleft : IsName "left" := (by decide : Keyword.left.asName = "left") ▸ .keyword rfl
  have hlimit : IsName "limit" := (by decide : Keyword.limit.asName = "limit") ▸ .keyword rfl
  have hleftA : IsColumn "left.a" :=
    (by decide : qualify "left" "a" = "left.a") ▸ .qualified hleft ha
  have huA : IsColumn "u.a" := (by decide : qualify "u" "a" = "u.a") ▸ .qualified hu ha
  have huB : IsColumn "u.b" := (by decide : qualify "u" "b" = "u.b") ▸ .qualified hu hb
  have h : (Statement.select q).WellFormed Value.Spellable :=
    { items_ne_nil := by decide
      item := by
        intro item hitem
        simp only [q, List.mem_cons, List.not_mem_nil, or_false] at hitem
        rcases hitem with rfl | rfl
        · exact ⟨hleftA, .inr hlimit⟩
        · exact ⟨⟨by rintro _ ⟨⟩; exact huB, nofun⟩, .inr ⟨"sum", by decide, by decide⟩⟩
      source := hleft
      otherName := nofun
      join := by
        intro j hj
        rw [List.mem_singleton.mp hj]
        exact ⟨ht, hu, hleftA, huA, rfl, by decide⟩
      filter := by
        rintro _ ⟨⟩
        refine ⟨by decide, ?_, by decide⟩
        intro c hc'
        simp only [List.mem_cons, List.not_mem_nil, or_false] at hc'
        rcases hc' with rfl | rfl
        · exact ⟨.plain ha, trivial⟩
        · exact ⟨.plain hc, trivial⟩
      groupBy_ne_nil := by decide
      groupBy := by
        rintro _ ⟨⟩ column hcolumn
        rw [List.mem_singleton.mp hcolumn]
        exact hleftA
      having := nofun
      orderBy := by
        rintro _ ⟨⟩
        exact .plain hlimit }
  have hreversed : SomeReversed q.joins reversed.joins :=
    .cons (.inr ⟨by decide, rfl⟩) .nil
  exact ⟨(parse_render h).1, (parse_render h).2 q reversed.joins rfl hreversed⟩

end Statement

end RelStore
