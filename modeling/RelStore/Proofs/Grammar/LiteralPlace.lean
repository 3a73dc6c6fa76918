import RelStore.Proofs.Grammar.Placeholder
import RelStore.Proofs.NameMap

/-!
# The places of literals in a statement

A literal stands among the values of an insertion, in an assignment or the test of a change, or in a
condition of a query.  A null that the grammar reads was read in one of these places, and another
literal read instead of it stands in the same place of a statement that is the same otherwise.
-/

namespace RelStore

/-- A place where a statement has a literal. -/
inductive LiteralPlace where
  | value (position : ℕ)
  | assignment (column : String)
  | test
  | filter (position : ℕ)
  | having (position : ℕ)
deriving DecidableEq, Repr

/-- The group with another literal in the condition at the position. -/
def ConditionGroup.withLiteral (group : ConditionGroup) (position : ℕ) (v : Value) :
    ConditionGroup :=
  { group with
    conditions := group.conditions.modify position fun condition =>
      { condition with literal := v } }

/-- The literal of the condition at the position. -/
def ConditionGroup.literalAt? (group : ConditionGroup) (position : ℕ) : Option Value :=
  group.conditions[position]?.map (·.literal)

namespace Statement

/-- The literal in a place of the statement. -/
def literalAt? : Statement → LiteralPlace → Option Value
  | insert _ _ values, .value i => values[i]?
  | update _ assignments _, .assignment column => assignments.get? column
  | update _ _ test, .test => test.map (·.literal)
  | delete _ test, .test => test.map (·.literal)
  | select q, .filter i => q.filter.bind (·.literalAt? i)
  | select q, .having i => q.having.bind (·.literalAt? i)
  | _, _ => none

/-- The statement with another literal in the place. -/
def withLiteral : Statement → LiteralPlace → Value → Statement
  | insert table columns values, .value i, v => insert table columns (values.set i v)
  | update table assignments test, .assignment column, v =>
    update table (assignments.insert column v) test
  | update table assignments test, .test, v =>
    update table assignments (test.map fun test => { test with literal := v })
  | delete table test, .test, v => delete table (test.map fun test => { test with literal := v })
  | select q, .filter i, v => select { q with filter := q.filter.map (·.withLiteral i v) }
  | select q, .having i, v => select { q with having := q.having.map (·.withLiteral i v) }
  | s, _, _ => s

end Statement

theorem ConditionGroup.literalAt?_withLiteral {group : ConditionGroup} {position : ℕ}
    (h : (group.literalAt? position).isSome) (v : Value) :
    (group.withLiteral position v).literalAt? position = some v := by
  obtain ⟨_, h⟩ := Option.isSome_iff_exists.mp h
  obtain ⟨condition, hcondition, -⟩ := Option.map_eq_some_iff.mp h
  simp [literalAt?, withLiteral, hcondition]

/-- **The literal put into a place that has one is the literal in that place.** -/
theorem Statement.literalAt?_withLiteral {s : Statement} {place : LiteralPlace}
    (h : (s.literalAt? place).isSome) (v : Value) :
    (s.withLiteral place v).literalAt? place = some v := by
  have hgroup : ∀ {group? : Option ConditionGroup} {i : ℕ},
      (group?.bind (·.literalAt? i)).isSome →
      (group?.map (·.withLiteral i v)).bind (·.literalAt? i) = some v := by
    intro group? i h
    cases group? with
    | none => contradiction
    | some group => exact group.literalAt?_withLiteral h v
  cases s <;> cases place <;> try contradiction
  case insert.value =>
    simp only [literalAt?, isSome_getElem?] at h
    simp [literalAt?, withLiteral, h]
  case update.assignment => simp [literalAt?, withLiteral]
  case update.test test =>
    cases test with
    | none => contradiction
    | some test => rfl
  case delete.test test =>
    cases test with
    | none => contradiction
    | some test => rfl
  case select.filter => exact hgroup h
  case select.having => exact hgroup h

namespace Grammar

open RelStore.Parser

/-! ## Fillings

What is read around a literal, as a function of the literal. -/

/-- The literal alone. -/
def LiteralFilling (fill : Value → Value) : Prop :=
  fill = id

/-- A condition that compares something with the literal. -/
def ConditionFilling (fill : Value → Condition) : Prop :=
  ∃ operand comparison, fill = fun v => ⟨operand, comparison, v⟩

/-- Conditions of which one compares something with the literal. -/
def ConditionsFilling (fill : Value → List Condition) : Prop :=
  ∃ before condition after, ConditionFilling condition ∧
    fill = fun v => before ++ condition v :: after

/-- A group of such conditions. -/
def GroupFilling (fill : Value → ConditionGroup) : Prop :=
  ∃ connective conditions, ConditionsFilling conditions ∧ fill = fun v => ⟨connective, conditions v⟩

/-- A test for equality with the literal. -/
def TestFilling (fill : Value → EqualityTest) : Prop :=
  ∃ column, fill = fun v => ⟨column, v⟩

/-- Values of which one is the literal. -/
def ValuesFilling (fill : Value → List Value) : Prop :=
  ∃ before after, fill = fun v => before ++ v :: after

/-- Assignments of which one is of the literal. -/
def AssignmentsFilling (fill : Value → NameMap Value) : Prop :=
  ∃ (assignments : NameMap Value) (column : String), fill = assignments.insert column

/-- A clause with such content. -/
def ClauseFilling {α : Type} (F : (Value → α) → Prop) (fill : Value → Option α) : Prop :=
  ∃ content, F content ∧ fill = fun v => some (content v)

/-- **A statement with the literal in a place of it.** -/
def StatementFilling (fill : Value → Statement) : Prop :=
  ∃ place, (fill .null).literalAt? place = some .null ∧
    ∀ v, fill v = (fill .null).withLiteral place v

theorem GroupFilling.literalAt? {fill : Value → ConditionGroup} (h : GroupFilling fill) :
    ∃ position, (fill .null).literalAt? position = some .null ∧
      ∀ v, fill v = (fill .null).withLiteral position v := by
  obtain ⟨connective, _, ⟨before, _, after, ⟨operand, comparison, rfl⟩, rfl⟩, rfl⟩ := h
  refine ⟨before.length, by simp [ConditionGroup.literalAt?], fun v => ?_⟩
  simp [ConditionGroup.withLiteral, List.modify_eq_take_cons_drop]

theorem statementFilling_insert {fill : Value → List Value} (h : ValuesFilling fill)
    (table : String) (columns : List String) :
    StatementFilling fun v => .insert table columns (fill v) := by
  obtain ⟨before, after, rfl⟩ := h
  refine ⟨.value before.length, by simp [Statement.literalAt?], fun v => ?_⟩
  simp [Statement.withLiteral]

theorem statementFilling_assignment {fill : Value → NameMap Value} (h : AssignmentsFilling fill)
    (table : String) (test : Option EqualityTest) :
    StatementFilling fun v => .update table (fill v) test := by
  obtain ⟨assignments, column, rfl⟩ := h
  refine ⟨.assignment column, by simp [Statement.literalAt?], fun v => ?_⟩
  simp [Statement.withLiteral]

theorem statementFilling_updateTest {fill : Value → Option EqualityTest}
    (h : ClauseFilling TestFilling fill) (table : String) (assignments : NameMap Value) :
    StatementFilling fun v => .update table assignments (fill v) := by
  obtain ⟨_, ⟨column, rfl⟩, rfl⟩ := h
  exact ⟨.test, rfl, fun _ => rfl⟩

theorem statementFilling_deleteTest {fill : Value → Option EqualityTest}
    (h : ClauseFilling TestFilling fill) (table : String) :
    StatementFilling fun v => .delete table (fill v) := by
  obtain ⟨_, ⟨column, rfl⟩, rfl⟩ := h
  exact ⟨.test, rfl, fun _ => rfl⟩

theorem statementFilling_filter {fill : Value → Option ConditionGroup}
    (h : ClauseFilling GroupFilling fill) (q : Query) :
    StatementFilling fun v => .select { q with filter := fill v } := by
  obtain ⟨group, hgroup, rfl⟩ := h
  obtain ⟨position, hnull, hfill⟩ := hgroup.literalAt?
  refine ⟨.filter position, hnull, fun v => ?_⟩
  simp only [Statement.withLiteral, Option.map_some, ← hfill v]

theorem statementFilling_having {fill : Value → Option ConditionGroup}
    (h : ClauseFilling GroupFilling fill) (q : Query) :
    StatementFilling fun v => .select { q with having := fill v } := by
  obtain ⟨group, hgroup, rfl⟩ := h
  obtain ⟨position, hnull, hfill⟩ := hgroup.literalAt?
  refine ⟨.having position, hnull, fun v => ?_⟩
  simp only [Statement.withLiteral, Option.map_some, ← hfill v]

/-! ## Literals and conditions -/

theorem fills_literal (allowBoolean : Bool) : (literal allowBoolean).Fills LiteralFilling := by
  intro fault before after a rest hrun
  obtain ⟨read, hread, htokens, -⟩ := reads_literal allowBoolean hrun
  rcases List.append_eq_append_iff.mp hread with ⟨middle, rfl, hafter⟩ | ⟨middle, rfl, hrest⟩
  · cases middle with
    | nil => exact .inl ⟨[], hafter.symm⟩
    | cons t middle =>
        obtain ⟨rfl, rfl⟩ := List.cons.inj hafter
        -- the null is the first token of the literal, or would be the number behind a minus sign
        obtain ⟨rfl, rfl⟩ : before = [] ∧ middle = [] := by
          rcases htokens with ⟨t, ht⟩ | ⟨whole, fraction, ht⟩
          · obtain ⟨rfl, -, rfl⟩ : before = [] ∧ _ ∧ middle = [] := by
              simpa [List.append_eq_singleton_iff] using ht
            exact ⟨rfl, rfl⟩
          · rcases before with _ | ⟨first, _ | ⟨second, before⟩⟩ <;> simp at ht
        cases hrun
        refine .inr ⟨id, rfl, rfl, List.suffix_rfl, fun hole result hhole => ⟨?_, ?_⟩⟩
        · rintro v rfl
          exact hhole.run_literal ..
        · rintro cause rfl fault' after'
          exact hhole.run_literal ..
  · exact .inl ⟨middle, hrest⟩

theorem fills_condition : condition.Fills ConditionFilling := by
  refine fills_bind_plain reads_operand fun operand => ?_
  refine fills_bind (F := fun _ => False) reads_comparison ?_ (fun comparison => ?_) nofun
  · refine fills_of_reads reads_comparison ?_
    rintro _ ⟨s, rfl, -⟩
    simp
  · refine fills_bind (reads_literal true) (fills_literal true) (fun _ => fills_pure _) ?_
    rintro _ rfl
    exact uniform_pure ⟨operand, comparison, rfl⟩

/-- The conditions read so far, of which one has the literal, and their connective. -/
def ReadConditionsFilling (fill : Value → List Condition × Option Connective) : Prop :=
  ∃ conditions connective, ConditionsFilling conditions ∧ fill = fun v => (conditions v, connective)

theorem continues_conditions {conditions : Value → List Condition}
    (h : ConditionsFilling conditions) (connective : Option Connective) (more : Bool) :
    Continues ReadConditionsFilling fun v => ((conditions v, connective), more) :=
  ⟨_, more, ⟨conditions, connective, h, rfl⟩, rfl⟩

/-- A condition with the literal goes to the end of those read so far. -/
theorem fills_nextCondition (read : List Condition × Option Connective) :
    (nextCondition read).Fills (Continues ReadConditionsFilling) := by
  refine fills_bind_plain reads_connective? fun next => ?_
  split
  next => exact fills_pure _
  next connective =>
    refine fills_ite (fills_malformed _) ?_
    refine fills_bind reads_condition fills_condition (fun _ => fills_pure _) ?_
    intro condition hcondition
    exact uniform_pure (continues_conditions ⟨read.1, condition, [], hcondition, rfl⟩ _ true)

theorem uniform_nextCondition {read : Value → List Condition × Option Connective}
    (h : ReadConditionsFilling read) :
    Uniform (Continues ReadConditionsFilling) fun v => nextCondition (read v) := by
  obtain ⟨_, connective, ⟨before, condition, after, hcondition, rfl⟩, rfl⟩ := h
  dsimp only [nextCondition]
  refine uniform_bind_const fun next => ?_
  cases next with
  | none =>
      exact uniform_pure (continues_conditions ⟨before, condition, after, hcondition, rfl⟩ _ false)
  | some next =>
      by_cases hmixed : connective.any (· ≠ next)
      · simp only [if_pos hmixed]
        exact uniform_malformed _
      · simp only [if_neg hmixed]
        refine uniform_bind_const fun last => uniform_pure (continues_conditions ?_ _ true)
        exact ⟨before, condition, after ++ [last], hcondition, by simp⟩

theorem fills_conditionGroup : conditionGroup.Fills GroupFilling := by
  have hgroup : ∀ read, ReadConditionsFilling read →
      Uniform GroupFilling fun v => pure ⟨(read v).2.getD .and, (read v).1⟩ := by
    rintro _ ⟨conditions, connective, hconditions, rfl⟩
    exact uniform_pure ⟨connective.getD .and, conditions, hconditions, rfl⟩
  rw [conditionGroup_eq]
  refine fills_bind reads_condition fills_condition (fun first => ?_) fun first hfirst => ?_
  · exact fills_bind (reads_loop composable_behindSymbols reads_nextCondition _)
      (fills_loop reads_nextCondition fills_nextCondition (fun _ => uniform_nextCondition) _)
      (fun _ => fills_pure _) hgroup
  · refine uniform_bind (uniform_loop (fun _ => uniform_nextCondition) ?_) hgroup
    exact ⟨_, none, ⟨[], first, [], hfirst, rfl⟩, rfl⟩

theorem fills_equalityTest : equalityTest.Fills TestFilling := by
  refine fills_bind_plain reads_name fun column => ?_
  refine fills_bind_plain (reads_symbol nofun) fun _ => ?_
  refine fills_bind (reads_literal true) (fills_literal true) (fun _ => fills_pure _) ?_
  rintro _ rfl
  exact uniform_pure ⟨column, rfl⟩

theorem fills_clause? {α : Type} {k : Keyword} (hk : k ≠ .null) {L : List Token → Prop}
    {rest : Parser α} {F : (Value → α) → Prop} (hreads : rest.Reads L) (hrest : rest.Fills F) :
    (clause? k rest).Fills (ClauseFilling F) := by
  refine fills_bind_plain (reads_acceptKeyword hk) fun _ => fills_ite ?_ (fills_pure _)
  exact fills_bind hreads hrest (fun _ => fills_pure _) fun content hcontent =>
    uniform_pure ⟨content, hcontent, rfl⟩

/-! ## Changes -/

theorem uniform_itemEnd {values : Value → List Value} (h : ValuesFilling values) :
    Uniform (Continues ValuesFilling) fun v => itemEnd (values v) := by
  refine uniform_bind_const fun token => ?_
  cases token with
  | symbol s =>
      cases s with
      | closeParen => exact uniform_pure ⟨values, false, h, rfl⟩
      | comma => exact uniform_pure ⟨values, true, h, rfl⟩
      | _ => exact uniform_malformed _
  | _ => exact uniform_malformed _

/-- A value and the sign behind it. -/
theorem reads_value (allowBoolean : Bool) (values : List Value) :
    (literal allowBoolean >>= fun v => itemEnd (values ++ [v])).Reads fun _ => True := by
  refine reads_bind_any (reads_literal _) fun _ => ?_
  exact (reads_itemEnd _).mono fun _ _ => trivial

theorem fills_values (allowBoolean : Bool) :
    (untilClosed fun _ => literal allowBoolean).Fills ValuesFilling := by
  rw [untilClosed_eq]
  refine fills_loop (reads_value allowBoolean) (fun values => ?_) ?_ []
  · refine fills_bind (reads_literal _) (fills_literal _)
      (fun _ => fills_of_plain (reads_itemEnd _)) ?_
    rintro _ rfl
    exact uniform_itemEnd ⟨values, [], rfl⟩
  · rintro _ ⟨before, after, rfl⟩
    refine uniform_bind_const fun last => uniform_itemEnd ⟨before, after ++ [last], ?_⟩
    simp

theorem fills_insert : insert.Fills StatementFilling := by
  refine fills_bind_plain (reads_keyword nofun) fun _ => ?_
  refine fills_bind_plain (reads_keyword nofun) fun _ => ?_
  refine fills_bind_plain reads_name fun table => ?_
  refine fills_bind_plain (reads_symbol nofun) fun _ => ?_
  refine fills_bind_plain (reads_untilClosed fun _ => ?_) fun columns => ?_
  · refine reads_bind composable_plain reads_name fun _ => ?_
    exact reads_ite (reads_malformed _) (reads_pure nofun _)
  refine fills_bind_plain (reads_keyword nofun) fun _ => ?_
  refine fills_bind_plain (reads_symbol nofun) fun _ => ?_
  refine fills_bind (reads_loop composable_true (reads_value false) []) (fills_values false)
    (fun _ => fills_ite (fills_malformed _) (fills_pure _)) ?_
  -- the number of values does not depend on the literal
  rintro _ ⟨before, after, rfl⟩
  simp only [List.length_append, List.length_cons]
  by_cases hlength : columns.length ≠ before.length + (after.length + 1)
  · simp only [if_pos hlength]
    exact uniform_malformed _
  · simp only [if_neg hlength]
    exact uniform_pure (statementFilling_insert ⟨before, after, rfl⟩ table columns)

/-- Reads one assignment, and the comma behind it if there is one. -/
theorem reads_assignment (read : NameMap Value) : (assignment read).Reads fun _ => True := by
  refine reads_bind_any reads_name fun _ => ?_
  refine reads_bind_any (reads_symbol (s := .equal) nofun) fun _ => ?_
  refine reads_bind_any (reads_literal true) fun _ => ?_
  refine reads_ite (reads_malformed _) ?_
  refine reads_bind_any (reads_accept rfl) fun _ => ?_
  exact reads_pure trivial _

theorem fills_assignment (read : NameMap Value) :
    (assignment read).Fills (Continues AssignmentsFilling) := by
  refine fills_bind_plain reads_name fun column => ?_
  refine fills_bind_plain (reads_symbol nofun) fun _ => ?_
  refine fills_bind (reads_literal true) (fills_literal true) (fun _ => ?_) ?_
  · refine fills_ite (fills_malformed _) ?_
    exact fills_bind_plain (reads_accept rfl) fun _ => fills_pure _
  · rintro _ rfl
    by_cases hrepeated : read.contains column
    · simp only [if_pos hrepeated]
      exact uniform_malformed _
    · simp only [if_neg hrepeated]
      exact uniform_bind_const fun more => uniform_pure ⟨_, more, ⟨read, column, rfl⟩, rfl⟩

/-- A later assignment is of another column. -/
theorem uniform_assignment {assigned : Value → NameMap Value} (h : AssignmentsFilling assigned) :
    Uniform (Continues AssignmentsFilling) fun v => assignment (assigned v) := by
  obtain ⟨read, column, rfl⟩ := h
  refine uniform_bind_const fun other => uniform_bind_const fun _ =>
    uniform_bind_const fun value => ?_
  have hcontains : ∀ v, (read.insert column v).contains other =
      (decide (other = column) || read.contains other) := by
    intro v
    rw [NameMap.contains, NameMap.get?_insert]
    by_cases hother : other = column <;> simp [hother, NameMap.contains]
  simp only [hcontains]
  by_cases hrepeated : (decide (other = column) || read.contains other) = true
  · simp only [if_pos hrepeated]
    exact uniform_malformed _
  · simp only [if_neg hrepeated]
    have hother : column ≠ other := by
      rintro rfl
      simp at hrepeated
    refine uniform_bind_const fun more => uniform_pure ?_
    refine ⟨_, more, ⟨read.insert other value, column, rfl⟩, funext fun v => ?_⟩
    rw [NameMap.insert_comm _ hother]

theorem reads_test {k : Keyword} (hk : k ≠ .null) :
    (clause? k equalityTest).Reads fun _ => True :=
  reads_clause? composable_true (fun _ _ => trivial) hk reads_equalityTest

theorem fills_test {k : Keyword} (hk : k ≠ .null) :
    (clause? k equalityTest).Fills (ClauseFilling TestFilling) :=
  fills_clause? hk reads_equalityTest fills_equalityTest

theorem fills_update : update.Fills StatementFilling := by
  refine fills_bind_plain (reads_keyword nofun) fun _ => ?_
  refine fills_bind_plain reads_name fun table => ?_
  refine fills_bind_plain (reads_keyword nofun) fun _ => ?_
  rw [assignments_eq]
  refine fills_bind (reads_loop composable_true reads_assignment ∅)
    (fills_loop reads_assignment fills_assignment (fun _ => uniform_assignment) ∅)
    (fun assigned => ?_) fun assigned hassigned => ?_
  · refine fills_bind (reads_test nofun) (fills_test (k := .whereWord) nofun)
      (fun _ => fills_pure _) ?_
    exact fun test htest => uniform_pure (statementFilling_updateTest htest table assigned)
  · refine uniform_bind_const fun test => ?_
    exact uniform_pure (statementFilling_assignment hassigned table test)

theorem fills_delete : delete.Fills StatementFilling := by
  refine fills_bind_plain (reads_keyword nofun) fun _ => ?_
  refine fills_bind_plain (reads_keyword nofun) fun _ => ?_
  refine fills_bind_plain reads_name fun table => ?_
  refine fills_bind (reads_test nofun) (fills_test (k := .whereWord) nofun)
    (fun _ => fills_pure _) ?_
  exact fun test htest => uniform_pure (statementFilling_deleteTest htest table)

/-! ## Queries -/

theorem fills_conditions {k : Keyword} (hk : k ≠ .null) :
    (clause? k conditionGroup).Fills (ClauseFilling GroupFilling) :=
  fills_clause? hk reads_conditionGroup fills_conditionGroup

/-- A number of rows is no null. -/
theorem fills_rowCount {k : Keyword} (hk : k ≠ .null) {α : Type} {F : (Value → α) → Prop}
    {f : Option UInt64 → Parser α} (hf : ∀ count, (f count).Fills F) :
    (clause? k rowCount >>= f).Fills F := by
  have hcomposable : Composable fun read => .keyword .null ∉ read :=
    ⟨List.not_mem_nil, fun h h' hmem => (List.mem_append.mp hmem).elim h h'⟩
  have hreads : (clause? k rowCount).Reads fun read => .keyword .null ∉ read := by
    refine reads_clause? hcomposable (fun read hread hmem => ?_) hk (reads_rowCount.mono ?_)
    · exact absurd (hread _ hmem) (by decide)
    · rintro _ ⟨whole, rfl⟩
      simp
  exact fills_bind (F := fun _ => False) hreads (fills_of_reads hreads fun _ => id) hf nofun

theorem fills_query : query.Fills fun fill => StatementFilling fun v => .select (fill v) := by
  refine fills_bind_plain (reads_keyword nofun) fun _ => ?_
  refine fills_bind_plain (reads_acceptKeyword nofun) fun distinct => ?_
  refine fills_bind_plain (reads_commaSeparated reads_selectItem) fun items => ?_
  refine fills_bind_plain (reads_keyword nofun) fun _ => ?_
  refine fills_bind_plain reads_name fun table => ?_
  refine fills_bind_plain reads_otherName? fun otherName => ?_
  refine fills_bind_plain (reads_joins _) fun joins => ?_
  refine fills_bind (reads_conditions nofun) (fills_conditions (k := .whereWord) nofun)
    (fun filter => ?_) ?_
  · refine fills_bind_plain (reads_plainClause? (k := .group) nofun reads_groupColumns)
      fun groupBy => ?_
    refine fills_bind (reads_conditions nofun) (fills_conditions (k := .having) nofun)
      (fun having => ?_) ?_
    · refine fills_bind_plain (reads_plainClause? (k := .order) nofun reads_sortKey)
        fun orderBy => ?_
      exact fills_rowCount (k := .limit) nofun fun limit =>
        fills_rowCount (k := .offset) nofun fun offset => fills_pure _
    · intro having hhaving
      refine uniform_bind_const fun orderBy => uniform_bind_const fun limit =>
        uniform_bind_const fun offset => uniform_pure ?_
      exact statementFilling_having hhaving
        ⟨distinct, items, ⟨table, otherName⟩, joins, filter, groupBy, none, orderBy, limit, offset⟩
  · intro filter hfilter
    refine uniform_bind_const fun groupBy => uniform_bind_const fun having =>
      uniform_bind_const fun orderBy => uniform_bind_const fun limit =>
      uniform_bind_const fun offset => uniform_pure ?_
    exact statementFilling_filter hfilter
      ⟨distinct, items, ⟨table, otherName⟩, joins, none, groupBy, having, orderBy, limit, offset⟩

/-- **A statement with a null among its tokens has a place for other literals.** -/
theorem fills_anyStatement : anyStatement.Fills StatementFilling := by
  refine fills_peek?_bind (fun token? => ?_) rfl
  split
  next => exact fills_of_plain reads_createTable
  next => exact fills_map fills_query fun _ => id
  next => exact fills_insert
  next => exact fills_update
  next => exact fills_delete
  next => exact fills_fail _

end Grammar

end RelStore
