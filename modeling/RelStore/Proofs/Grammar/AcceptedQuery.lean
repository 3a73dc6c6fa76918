import RelStore.Proofs.Grammar.Accepted
import RelStore.Proofs.Grammar.Phrases

/-!
# The parser accepts nothing that it did not read

Queries that are read are well-formed, like declarations and changes.  What the grammar derives
rather than reads is where this takes an argument: a single condition counts as joined by AND
because no connective was read, and the sides of a join are exchanged when only the first of them
is a column of the joined table.

Looking for an optional token swallows a fault that stands there.  No fault is lost by that: a
statement is accepted only at the end of the text, and what is read before is all of the tokens.
-/

namespace RelStore

open RelStore.Parser

namespace Grammar

/-! ## Columns -/

theorem yields_qualifiedFrom {first : String} (h : IsName first) :
    (qualifiedFrom first).Yields IsColumn := by
  unfold qualifiedFrom
  refine yields_bind yields_true fun _ _ => yields_ite (fun _ => ?_) fun _ => yields_pure (.plain h)
  exact yields_bind yields_name fun name hname => yields_pure (.qualified h hname)

theorem yields_columnName : columnName.Yields IsColumn :=
  yields_bind yields_name fun _ hfirst => yields_qualifiedFrom hfirst

theorem yields_takeIf? (p : Token → Bool) :
    (takeIf? p).Yields fun token? => ∀ token ∈ token?, token.Spellable ∧ p token = true := by
  intro fault tokens token? rest htokens hrun
  cases tokens with
  | nil =>
      cases hrun
      nofun
  | cons token tokens =>
      simp only [takeIf?] at hrun
      split at hrun
      next hp =>
        cases hrun
        rintro _ ⟨⟩
        exact ⟨htokens _ List.mem_cons_self, hp⟩
      next =>
        cases hrun
        nofun

theorem yields_commaSeparated {α : Type} {item : Parser α} {P : α → Prop} (h : item.Yields P) :
    (commaSeparated item).Yields fun as => as ≠ [] ∧ ∀ a ∈ as, P a := by
  unfold commaSeparated
  refine yields_loop (fun as => ∀ a ∈ as, P a) _ nofun (fun as has => ?_) fun _ h => h.2
  refine yields_bind h fun a ha => yields_bind yields_true fun _ _ => yields_pure ⟨by simp, ?_⟩
  intro b hb
  rcases List.mem_append.mp hb with hb | hb
  · exact has b hb
  · exact List.mem_singleton.mp hb ▸ ha

/-! ## Conditions -/

/-- A star is read as an argument of counting only. -/
theorem yields_aggregateCall (functionName : String) : (aggregateCall functionName).Yields
    fun call => call.WellFormed ∧ AggregateFunction.ofName? functionName = some call.function := by
  unfold aggregateCall
  split
  next => exact yields_malformed _
  next function hfunction =>
    refine yields_bind yields_true fun _ _ => yields_ite (fun _ => ?_) fun _ => ?_
    · refine yields_ite (fun _ => yields_malformed _) fun hcount => ?_
      refine yields_bind yields_true fun _ _ => yields_pure ⟨⟨nofun, fun _ => ?_⟩, hfunction⟩
      exact not_not.mp hcount
    · refine yields_bind yields_columnName fun column hcolumn => ?_
      refine yields_bind yields_true fun _ _ => yields_pure ⟨⟨?_, nofun⟩, hfunction⟩
      rintro _ ⟨⟩
      exact hcolumn

theorem yields_operand : operand.Yields Operand.WellFormed := by
  unfold operand
  refine yields_bind yields_name fun first hfirst => yields_bind yields_true fun _ _ => ?_
  refine yields_ite (fun _ => ?_) fun _ => ?_
  · exact yields_bind (yields_aggregateCall first) fun call hcall => yields_pure hcall.1
  · exact yields_bind (yields_qualifiedFrom hfirst) fun column hcolumn => yields_pure hcolumn

theorem yields_condition : condition.Yields (·.WellFormed Value.Unquoted) := by
  unfold condition
  refine yields_bind yields_operand fun operand hoperand => yields_bind yields_true fun _ _ => ?_
  exact yields_bind (yields_literal true) fun v hv => yields_pure ⟨hoperand, hv.1⟩

/-- Conditions that were read, with the connective between them unless there is a single one. -/
def Joined (read : List Condition × Option Connective) : Prop :=
  read.1 ≠ [] ∧ (∀ c ∈ read.1, c.WellFormed Value.Unquoted) ∧
    (read.1.length = 1 → read.2 = none)

theorem Joined.append {conditions : List Condition} {connective : Option Connective}
    (h : Joined (conditions, connective)) {c : Condition} (hc : c.WellFormed Value.Unquoted)
    (next : Option Connective) : Joined (conditions ++ [c], next) := by
  obtain ⟨hne, hconditions, -⟩ := h
  refine ⟨by simp, fun d hd => ?_, fun hlength => ?_⟩
  · rcases List.mem_append.mp hd with hd | hd
    · exact hconditions d hd
    · exact List.mem_singleton.mp hd ▸ hc
  · have hpos : 0 < conditions.length := List.length_pos_iff.mpr hne
    simp only [List.length_append, List.length_singleton] at hlength
    omega

theorem yields_conditionGroup : conditionGroup.Yields (·.WellFormed Value.Unquoted) := by
  unfold conditionGroup
  refine yields_bind yields_condition fun first hfirst => ?_
  have hinitial : Joined ([first], none) :=
    ⟨by simp, by simpa using hfirst, fun _ => rfl⟩
  refine yields_bind (yields_loop Joined Joined hinitial ?_ fun _ h => h) ?_
  · rintro ⟨conditions, connective⟩ hread
    refine yields_bind yields_true fun next _ => ?_
    split
    next => exact yields_pure hread
    next next =>
      refine yields_ite (fun _ => yields_malformed _) fun _ => ?_
      exact yields_bind yields_condition fun c hc => yields_pure (hread.append hc _)
  · rintro ⟨conditions, connective⟩ ⟨hne, hconditions, hsingle⟩
    refine yields_pure ⟨hne, hconditions, fun hlength => ?_⟩
    rw [show connective = none from hsingle hlength]
    rfl

/-! ## Clauses of queries -/

theorem yields_otherName? : otherName?.Yields fun name? => ∀ name ∈ name?, IsName name := by
  unfold otherName?
  refine yields_bind yields_true fun _ _ => yields_ite (fun _ => ?_) fun _ => ?_
  · refine yields_bind yields_name fun name hname => yields_pure ?_
    rintro _ ⟨⟩
    exact hname
  · refine yields_bind (yields_takeIf? _) fun token? htoken => ?_
    split
    next s =>
      obtain ⟨⟨cs, hspells⟩, -⟩ := htoken _ rfl
      cases hspells with
      | word hword hkeyword =>
          refine yields_pure ?_
          rintro _ ⟨⟩
          exact .word hword hkeyword
    next => exact yields_pure nofun

theorem yields_selectItem : selectItem.Yields SelectItem.WellFormed := by
  have hgetD : ∀ {outputName? : Option String} {name : String},
      (∀ other ∈ outputName?, IsName other) →
      outputName?.getD name = name ∨ IsName (outputName?.getD name) := by
    intro outputName? name h
    cases outputName? with
    | none => exact .inl rfl
    | some other => exact .inr (h other rfl)
  unfold selectItem
  refine yields_bind yields_true fun _ _ => yields_ite (fun _ => yields_pure trivial) fun _ => ?_
  refine yields_bind yields_name fun first hfirst => yields_bind yields_true fun _ _ => ?_
  refine yields_ite (fun _ => ?_) fun _ => ?_
  · refine yields_bind (yields_aggregateCall first) fun call hcall => ?_
    refine yields_bind (yields_clause? yields_name) fun other hother => yields_pure ⟨hcall.1, ?_⟩
    rcases hgetD hother with hdefault | hname
    · exact .inr ⟨first, hcall.2, hdefault⟩
    · exact .inl hname
  · refine yields_bind (yields_qualifiedFrom hfirst) fun column hcolumn => ?_
    refine yields_bind (yields_clause? yields_name) fun other hother => ?_
    exact yields_pure ⟨hcolumn, hgetD hother⟩

/-- A join is read the right way round. -/
theorem yields_joinAfter (leftQualifier : String) (kind : JoinKind) :
    (joinAfter leftQualifier kind).Yields (·.WellFormed leftQualifier) := by
  unfold joinAfter
  refine yields_bind yields_name fun table htable => ?_
  refine yields_bind yields_otherName? fun other hother => yields_bind yields_true fun _ _ => ?_
  refine yields_bind yields_columnName fun first hfirst => yields_bind yields_true fun _ _ => ?_
  refine yields_bind yields_columnName fun second hsecond => ?_
  have hqualifier : IsName (other.getD table) := by
    cases other with
    | none => exact htable
    | some name => exact hother name rfl
  refine yields_ite (fun hreversed => yields_pure ?_) fun hreversed => yields_pure ?_
  · exact ⟨htable, hqualifier, hsecond, hfirst, rfl, fun h => h.2 hreversed.1⟩
  · exact ⟨htable, hqualifier, hfirst, hsecond, rfl, hreversed⟩

theorem yields_joins (leftQualifier : String) :
    (joins leftQualifier).Yields fun js => ∀ j ∈ js, j.WellFormed leftQualifier := by
  unfold joins
  refine yields_loop (fun js => ∀ j ∈ js, j.WellFormed leftQualifier) _ nofun (fun js hjs => ?_)
    fun _ h => h
  refine yields_bind yields_true fun kind? _ => ?_
  split
  next => exact yields_pure hjs
  next kind =>
    refine yields_bind (yields_joinAfter leftQualifier kind) fun j hj => yields_pure ?_
    intro other hother
    rcases List.mem_append.mp hother with hother | hother
    · exact hjs other hother
    · exact List.mem_singleton.mp hother ▸ hj

theorem yields_sortKey : sortKey.Yields fun key => IsColumn key.column := by
  unfold sortKey
  refine yields_bind yields_true fun _ _ => yields_bind yields_columnName fun column hcolumn => ?_
  exact yields_bind yields_true fun _ _ => yields_pure hcolumn

theorem yields_groupColumns :
    groupColumns.Yields fun columns => columns ≠ [] ∧ ∀ column ∈ columns, IsColumn column :=
  yields_bind yields_true fun _ _ => yields_commaSeparated yields_columnName

/-- **A query that is read is well-formed.** -/
theorem yields_query : query.Yields (·.WellFormed Value.Unquoted) := by
  unfold query
  refine yields_bind yields_true fun _ _ => yields_bind yields_true fun _ _ => ?_
  refine yields_bind (yields_commaSeparated yields_selectItem) fun items hitems => ?_
  refine yields_bind yields_true fun _ _ => yields_bind yields_name fun table htable => ?_
  refine yields_bind yields_otherName? fun other hother => ?_
  refine yields_bind (yields_joins _) fun js hjs => ?_
  refine yields_bind (yields_clause? yields_conditionGroup) fun filter hfilter => ?_
  refine yields_bind (yields_clause? yields_groupColumns) fun groupBy hgroupBy => ?_
  refine yields_bind (yields_clause? yields_conditionGroup) fun having hhaving => ?_
  refine yields_bind (yields_clause? yields_sortKey) fun orderBy horderBy => ?_
  refine yields_bind yields_true fun _ _ => yields_bind yields_true fun _ _ => yields_pure ?_
  exact {
    items_ne_nil := hitems.1
    item := hitems.2
    source := htable
    otherName := hother
    join := hjs
    filter := hfilter
    groupBy_ne_nil := fun h => (hgroupBy [] h).1 rfl
    groupBy := fun columns hcolumns => (hgroupBy columns hcolumns).2
    having := hhaving
    orderBy := horderBy }

/-- **A statement that is read is well-formed.** -/
theorem yields_anyStatement : anyStatement.Yields (·.WellFormed Value.Unquoted) := by
  unfold anyStatement
  refine yields_bind yields_true fun first _ => ?_
  split
  next => exact yields_createTable
  next => exact yields_bind yields_query fun q hq => yields_pure hq
  next => exact yields_insert
  next => exact yields_update
  next => exact yields_delete
  next => exact yields_fail _

/-- What is accepted was read by `anyStatement` up to a semicolon or to the end of the text. -/
theorem run_statement_eq_ok {fault : Option SyntaxError} {tokens rest : List Token} {s : Statement}
    (h : statement.run fault tokens = .ok (s, rest)) : fault = none ∧ rest = [] ∧
      ∃ closing, (closing = [] ∨ closing = [.symbol .semicolon]) ∧
        anyStatement.run fault tokens = .ok (s, closing) := by
  rw [run_statement_eq] at h
  obtain ⟨⟨s', closing⟩, hread, h⟩ := bind_eq_ok_iff.mp h
  obtain ⟨rfl, hleft, rfl, rfl⟩ := atEnd_eq_ok h
  refine ⟨rfl, rfl, closing, ?_, hread⟩
  split at hleft
  next hsemicolon =>
    obtain ⟨left, rfl⟩ := List.head?_eq_some_iff.mp hsemicolon
    rw [show left = [] from hleft]
    exact .inr rfl
  next => exact .inl hleft

end Grammar

namespace Statement

theorem run_of_ofTokens_eq_ok {stream : TokenStream} {s : Statement}
    (h : ofTokens stream = .ok s) : stream.fault = none ∧
      ∃ closing, (closing = [] ∨ closing = [.symbol .semicolon]) ∧
        Grammar.anyStatement.run none stream.tokens = .ok (s, closing) := by
  obtain ⟨⟨s', rest⟩, hrun, rfl⟩ := map_eq_ok_iff.mp h
  obtain ⟨hfault, -, closing, hclosing, hread⟩ := Grammar.run_statement_eq_ok hrun
  rw [hfault] at hread
  exact ⟨hfault, closing, hclosing, hread⟩

theorem run_of_parse_eq_ok {sql : String} {s : Statement} (h : parse sql = .ok s) :
    (TokenStream.ofText sql).fault = none ∧
      ∃ closing, (closing = [] ∨ closing = [.symbol .semicolon]) ∧
        Grammar.anyStatement.run none (TokenStream.ofText sql).tokens = .ok (s, closing) :=
  run_of_ofTokens_eq_ok h

theorem wellFormed_of_parse {sql : String} {s : Statement} (h : parse sql = .ok s) :
    s.WellFormed Value.Unquoted := by
  obtain ⟨-, closing, -, hread⟩ := run_of_parse_eq_ok h
  exact Grammar.yields_anyStatement _ _ _ _ (fun t => TokenStream.spellable_of_mem_ofChars) hread

/-- **The parser accepts nothing that it did not read.**  A text that is accepted has no lexical
fault and is written with its tokens from beginning to end; all of them were read for the
statement, none of these a semicolon, save a last one that may close it; and the statement is
well-formed. -/
theorem read_of_parse_eq_ok {sql : String} {s : Statement} (h : parse sql = .ok s) :
    ∃ read closing, (closing = [] ∨ closing = [.symbol .semicolon]) ∧
      TokenStream.ofText sql = ⟨read ++ closing, none⟩ ∧ Written (read ++ closing) sql.toList ∧
      .symbol .semicolon ∉ read ∧
      Grammar.anyStatement.run none (read ++ closing) = .ok (s, closing) ∧
      s.WellFormed Value.Unquoted := by
  obtain ⟨hfault, closing, hclosing, hread⟩ := run_of_parse_eq_ok h
  obtain ⟨read, htokens, hsemicolon⟩ := Grammar.phrase_anyStatement.read hread
  refine ⟨read, closing, hclosing, ?_, ?_, hsemicolon, ?_, wellFormed_of_parse h⟩
  · rw [← htokens, ← hfault]
  · rw [← htokens]
    exact TokenStream.written_ofChars hfault
  · rw [← htokens]
    exact hread

/-- A query with a semicolon behind it, whose join was written the wrong way round. -/
theorem read_of_parse_eq_ok_reversedJoin :
    let sql := "SELECT a FROM t JOIN u ON u.b = c WHERE a = 'x';"
    let q : Query :=
      { distinct := false, items := [.column "a" "a"], source := ⟨"t", none⟩
        joins := [⟨"u", .inner, "c", "u.b", "t", "u"⟩]
        filter := some ⟨.and, [⟨.column "a", .equal, .text "x"⟩]⟩
        groupBy := none, having := none, orderBy := none, limit := none, offset := none }
    parse sql = .ok (.select q) ∧ q.WellFormed Value.Unquoted ∧
      ∃ read, (TokenStream.ofText sql).tokens = read ++ [.symbol .semicolon] ∧
        .symbol .semicolon ∉ read ∧
        Grammar.anyStatement.run none (TokenStream.ofText sql).tokens =
          .ok (.select q, [.symbol .semicolon]) := by
  intro sql q
  have hparse : parse sql = .ok (.select q) := by decide +kernel
  have hlast : Token.symbol .semicolon ∈ (TokenStream.ofText sql).tokens := by decide +kernel
  obtain ⟨read, closing, hclosing, hstream, -, hsemicolon, hread, hwf⟩ := read_of_parse_eq_ok hparse
  rw [hstream] at hlast ⊢
  rcases hclosing with rfl | rfl
  · rw [List.append_nil] at hlast
    exact absurd hlast hsemicolon
  · exact ⟨hparse, hwf, read, rfl, hsemicolon, hread⟩

end Statement

end RelStore
