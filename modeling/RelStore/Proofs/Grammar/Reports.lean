import RelStore.Proofs.Grammar.AcceptedQuery
import RelStore.Proofs.Token.Reports

/-!
# What the grammar reports

Where a statement is refused for its shape, the message names a token, a name or a number.  So it is
a single line unless the token is a text of the statement.  The literals of a statement that is not
refused are written as single lines, too, unless they are texts of it.
-/

namespace RelStore

open Text RelStore.Parser

/-- Every literal of the statement has the property. -/
def Statement.Literals (P : Value → Prop) : Statement → Prop
  | createTable _ _ _ => True
  | insert _ _ values => ∀ v ∈ values, P v
  | update _ assignments test =>
    (∀ entry ∈ assignments.entries, P entry.2) ∧ ∀ condition ∈ test, P condition.literal
  | delete _ test => ∀ condition ∈ test, P condition.literal
  | select q =>
    (∀ group ∈ q.filter, ∀ c ∈ group.conditions, P c.literal) ∧
      ∀ group ∈ q.having, ∀ c ∈ group.conditions, P c.literal

namespace Grammar

variable {texts : String → Prop}

/-! ## Names and literals -/

theorem reports_keyword (k : Keyword) : (keyword k).Reports texts fun _ => True :=
  reports_expect k.singleLine_spelling

theorem reports_symbol (s : Symbol) : (symbol s).Reports texts fun _ => True :=
  reports_expect s.singleLine_spelling

theorem reports_acceptKeyword (k : Keyword) : (acceptKeyword k).Reports texts fun _ => True :=
  reports_accept _

/-- A token out of place is what the message ends with. -/
theorem reports_outOfPlace {α : Type} {P : α → Prop} {cause : SyntaxError} {before : String}
    {t : Token} (ht : t.Among texts) (hmessage : cause.message = before ++ t.toText)
    (hquoted : cause.quoted? = t.quoted?) (hbefore : SingleLine before) :
    (malformed cause : Parser α).Reports texts P :=
  reports_malformed (Error.singleLineUnless_malformed hmessage hquoted hbefore ht.singleLineUnless)

theorem reports_name : name.Reports texts IsName := by
  have hname : name.Reports texts fun _ => True := by
    refine reports_bind reports_next fun token htoken => ?_
    split
    next => exact reports_pure trivial
    next k =>
      refine reports_ite (fun _ => ?_) fun _ => reports_pure trivial
      exact reports_outOfPlace htoken rfl rfl (by decide)
    next => exact reports_outOfPlace htoken rfl rfl (by decide)
  exact (hname.and_yields yields_name).mono fun _ h => h.2

theorem reports_qualifiedFrom (first : String) :
    (qualifiedFrom first).Reports texts fun _ => True := by
  refine reports_bind (reports_accept _) fun _ _ => reports_ite (fun _ => ?_) fun _ => ?_
  · exact reports_bind reports_name fun _ _ => reports_pure trivial
  · exact reports_pure trivial

theorem reports_columnName : columnName.Reports texts fun _ => True :=
  reports_bind reports_name fun first _ => reports_qualifiedFrom first

/-- A number that is too large or too small is not shown. -/
theorem reports_numberLiteral (negative : Bool) (whole : String) (fraction : Option String) :
    (ofResult (numberLiteral negative whole fraction)).Reports texts
      (Value.SingleLineUnless texts) := by
  unfold numberLiteral
  split
  next =>
    dsimp only
    split
    · exact reports_pure (Value.singleLineUnless_of_ne_text nofun)
    · refine reports_malformed (Error.singleLineUnless_of_singleLine ?_)
      cases negative <;> decide
  next => exact reports_pure (Value.singleLineUnless_of_ne_text nofun)

/-- **A literal is a text of the statement or written as a single line.** -/
theorem reports_literal (allowBoolean : Bool) :
    (literal allowBoolean).Reports texts (Value.SingleLineUnless texts) := by
  have hplain : ∀ {v : Value}, (∀ s, v ≠ .text s) →
      (pure v : Parser Value).Reports texts (Value.SingleLineUnless texts) :=
    fun hv => reports_pure (Value.singleLineUnless_of_ne_text hv)
  refine reports_bind reports_next fun token htoken => ?_
  have hinvalid : (malformed (.invalidLiteral token) : Parser Value).Reports texts
      (Value.SingleLineUnless texts) := reports_outOfPlace htoken rfl rfl (by decide)
  split
  next s => exact reports_pure (Value.singleLineUnless_text (htoken.2 s rfl))
  next => exact reports_numberLiteral _ _ _
  next =>
    refine reports_bind reports_next fun token htoken => ?_
    split
    next => exact reports_numberLiteral _ _ _
    next => exact reports_outOfPlace htoken rfl rfl (by decide)
  next => exact hplain nofun
  next => exact reports_ite (fun _ => hplain nofun) fun _ => hinvalid
  next => exact reports_ite (fun _ => hplain nofun) fun _ => hinvalid
  next => exact reports_ite (fun _ => hplain nofun) fun _ => hinvalid
  next => exact hinvalid

theorem reports_rowCount : rowCount.Reports texts fun _ => True := by
  refine reports_bind reports_next fun token htoken => ?_
  split
  next =>
    refine reports_ite (fun _ => reports_pure trivial) fun _ => ?_
    exact reports_malformed (Error.singleLineUnless_of_singleLine (by decide))
  next => exact reports_outOfPlace htoken rfl rfl (by decide)

theorem reports_clause? {α : Type} {P : α → Prop} (k : Keyword) {rest : Parser α}
    (h : rest.Reports texts P) : (clause? k rest).Reports texts fun a? => ∀ a ∈ a?, P a := by
  refine reports_bind (reports_acceptKeyword k) fun _ _ => reports_ite (fun _ => ?_) fun _ => ?_
  · refine reports_bind h fun a ha => reports_pure ?_
    rintro _ ⟨⟩
    exact ha
  · exact reports_pure nofun

/-! ## Conditions -/

theorem reports_aggregateCall {functionName : String} (h : IsName functionName) :
    (aggregateCall functionName).Reports texts fun _ => True := by
  unfold aggregateCall
  split
  next =>
    refine reports_malformed (Error.singleLineUnless_of_singleLine ?_)
    exact .append (by decide) (.append (by decide) h.singleLine)
  next function _ =>
    refine reports_bind (reports_accept _) fun _ _ => reports_ite (fun _ => ?_) fun _ => ?_
    · refine reports_ite (fun _ => reports_malformed ?_) fun _ => ?_
      · exact Error.singleLineUnless_of_singleLine (by cases function <;> decide)
      · exact reports_bind (reports_symbol _) fun _ _ => reports_pure trivial
    · refine reports_bind reports_columnName fun _ _ => ?_
      exact reports_bind (reports_symbol _) fun _ _ => reports_pure trivial

theorem reports_operand : operand.Reports texts fun _ => True := by
  refine reports_bind reports_name fun first hfirst => reports_bind (reports_accept _) fun _ _ => ?_
  refine reports_ite (fun _ => ?_) fun _ => ?_
  · exact reports_bind (reports_aggregateCall hfirst) fun _ _ => reports_pure trivial
  · exact reports_bind (reports_qualifiedFrom first) fun _ _ => reports_pure trivial

theorem reports_comparison : comparison.Reports texts fun _ => True := by
  refine reports_bind reports_next fun token htoken => ?_
  split
  all_goals first
    | exact reports_pure trivial
    | exact reports_outOfPlace htoken rfl rfl (by decide)

theorem reports_condition :
    condition.Reports texts fun c => c.literal.SingleLineUnless texts := by
  refine reports_bind reports_operand fun _ _ => reports_bind reports_comparison fun _ _ => ?_
  exact reports_bind (reports_literal true) fun v hv => reports_pure hv

theorem reports_connective? : connective?.Reports texts fun _ => True :=
  reports_bind (reports_takeIf? _) fun _ _ => reports_pure trivial

theorem reports_conditionGroup : conditionGroup.Reports texts fun group =>
    ∀ c ∈ group.conditions, c.literal.SingleLineUnless texts := by
  refine reports_bind reports_condition fun first hfirst => ?_
  refine reports_bind (reports_loop (I := fun read : List Condition × Option Connective =>
    ∀ c ∈ read.1, c.literal.SingleLineUnless texts) (by simpa using hfirst) ?_) ?_
  · rintro ⟨conditions, connective⟩ hconditions
    refine reports_bind reports_connective? fun next _ => ?_
    split
    next => exact reports_pure hconditions
    next =>
      refine reports_ite (fun _ => reports_malformed ?_) fun _ => ?_
      · exact Error.singleLineUnless_of_singleLine (by decide)
      · refine reports_bind reports_condition fun c hc => reports_pure ?_
        exact List.forall_mem_append.mpr ⟨hconditions, by simpa using hc⟩
  · rintro ⟨conditions, connective⟩ hconditions
    exact reports_pure hconditions

theorem reports_equalityTest :
    equalityTest.Reports texts fun test => test.literal.SingleLineUnless texts := by
  refine reports_bind reports_name fun _ _ => reports_bind (reports_symbol _) fun _ _ => ?_
  exact reports_bind (reports_literal true) fun v hv => reports_pure hv

/-! ## Declarations -/

theorem reports_columnType : columnType.Reports texts fun _ => True := by
  refine reports_bind reports_next fun token htoken => ?_
  split
  all_goals first
    | exact reports_pure trivial
    | exact reports_outOfPlace htoken rfl rfl (by decide)

theorem reports_columnDefinition : columnDefinition.Reports texts fun _ => True := by
  refine reports_bind reports_name fun _ _ => reports_bind reports_columnType fun _ _ => ?_
  refine reports_bind (reports_acceptKeyword _) fun _ _ => reports_ite (fun _ => ?_) fun _ => ?_
  · exact reports_bind (reports_keyword _) fun _ _ => reports_pure trivial
  · exact reports_pure trivial

theorem reports_keyConstraint : keyConstraint.Reports texts fun _ => True := by
  refine reports_bind (reports_keyword _) fun _ _ => reports_bind (reports_symbol _) fun _ _ => ?_
  refine reports_bind reports_name fun _ _ => ?_
  exact reports_bind (reports_symbol _) fun _ _ => reports_pure trivial

theorem reports_tableElement (read : List ColumnDefinition × Option String) :
    (tableElement read).Reports texts fun _ => True := by
  refine reports_bind (reports_acceptKeyword _) fun _ _ => reports_ite (fun _ => ?_) fun _ => ?_
  · refine reports_bind reports_keyConstraint fun _ _ => reports_ite (fun _ => ?_) fun _ => ?_
    · exact reports_malformed (Error.singleLineUnless_of_singleLine (by decide))
    · exact reports_bind (reports_accept _) fun _ _ => reports_pure trivial
  · refine reports_bind reports_columnDefinition fun _ _ => ?_
    exact reports_bind (reports_accept _) fun _ _ => reports_pure trivial

theorem reports_createTable : createTable.Reports texts fun s =>
    s.Literals (Value.SingleLineUnless texts) := by
  have helements : tableElements.Reports texts fun _ => True :=
    tableElements_eq ▸ reports_loop trivial fun read _ => reports_tableElement read
  refine reports_bind (reports_keyword _) fun _ _ => ?_
  refine reports_bind reports_next fun token htoken => ?_
  split
  next =>
    refine reports_bind reports_name fun _ _ => reports_bind (reports_symbol _) fun _ _ => ?_
    refine reports_bind helements fun _ _ => reports_bind (reports_symbol _) fun _ _ => ?_
    exact reports_pure trivial
  next => exact reports_outOfPlace htoken rfl rfl (by decide)

/-! ## Changes -/

theorem reports_untilClosed {α : Type} {item : List α → Parser α} {P : α → Prop}
    (h : ∀ as, (item as).Reports texts P) :
    (untilClosed item).Reports texts fun as => ∀ a ∈ as, P a := by
  refine reports_loop nofun fun as has => reports_bind (h as) fun a ha => ?_
  have happend : ∀ b ∈ as ++ [a], P b := List.forall_mem_append.mpr ⟨has, by simpa using ha⟩
  refine reports_bind reports_next fun token htoken => ?_
  split
  · exact reports_pure happend
  · exact reports_pure happend
  · exact reports_outOfPlace htoken rfl rfl (by decide)

theorem reports_insert : insert.Reports texts fun s =>
    s.Literals (Value.SingleLineUnless texts) := by
  refine reports_bind (reports_keyword _) fun _ _ => reports_bind (reports_keyword _) fun _ _ => ?_
  refine reports_bind reports_name fun _ _ => reports_bind (reports_symbol _) fun _ _ => ?_
  refine reports_bind (reports_untilClosed (P := fun _ => True) fun columns => ?_) fun _ _ => ?_
  · refine reports_bind reports_name fun column hcolumn => reports_ite (fun _ => ?_) fun _ => ?_
    · refine reports_malformed (Error.singleLineUnless_of_singleLine ?_)
      exact .append (by decide) ((SingleLine.append (by decide) hcolumn.singleLine).append
        (by decide))
    · exact reports_pure trivial
  refine reports_bind (reports_keyword _) fun _ _ => reports_bind (reports_symbol _) fun _ _ => ?_
  refine reports_bind (reports_untilClosed fun _ => reports_literal false) fun values hvalues => ?_
  refine reports_ite (fun _ => reports_malformed ?_) fun _ => reports_pure hvalues
  refine Error.singleLineUnless_of_singleLine (.append (by decide) (.append (by decide) ?_))
  exact (((singleLine_repr _).append (by decide)).append (singleLine_repr _)).append (by decide)

theorem reports_assignments : assignments.Reports texts fun assigned =>
    ∀ entry ∈ assigned.entries, entry.2.SingleLineUnless texts := by
  rw [assignments_eq]
  refine reports_loop nofun fun read hread => ?_
  refine reports_bind reports_name fun column hcolumn => ?_
  refine reports_bind (reports_symbol _) fun _ _ => ?_
  refine reports_bind (reports_literal true) fun v hv => reports_ite (fun _ => ?_) fun _ => ?_
  · refine reports_malformed (Error.singleLineUnless_of_singleLine ?_)
    exact .append (by decide) ((SingleLine.append (by decide) hcolumn.singleLine).append
      (by decide))
  · refine reports_bind (reports_accept _) fun _ _ => reports_pure fun entry hentry => ?_
    rcases NameMap.mem_insertEntry hentry with rfl | hentry
    · exact hv
    · exact hread entry hentry

theorem reports_update : update.Reports texts fun s =>
    s.Literals (Value.SingleLineUnless texts) := by
  refine reports_bind (reports_keyword _) fun _ _ => reports_bind reports_name fun _ _ => ?_
  refine reports_bind (reports_keyword _) fun _ _ => ?_
  refine reports_bind reports_assignments fun _ hassigned => ?_
  refine reports_bind (reports_clause? _ reports_equalityTest) fun _ htest => ?_
  exact reports_pure ⟨hassigned, htest⟩

theorem reports_delete : delete.Reports texts fun s =>
    s.Literals (Value.SingleLineUnless texts) := by
  refine reports_bind (reports_keyword _) fun _ _ => reports_bind (reports_keyword _) fun _ _ => ?_
  refine reports_bind reports_name fun _ _ => ?_
  exact reports_bind (reports_clause? _ reports_equalityTest) fun _ htest => reports_pure htest

/-! ## Queries -/

theorem reports_outputName? : outputName?.Reports texts fun _ => True :=
  (reports_clause? _ reports_name).mono fun _ _ => trivial

theorem reports_otherName? : otherName?.Reports texts fun _ => True := by
  refine reports_bind (reports_acceptKeyword _) fun _ _ => reports_ite (fun _ => ?_) fun _ => ?_
  · exact reports_bind reports_name fun _ _ => reports_pure trivial
  · refine reports_bind (reports_takeIf? _) fun token? _ => ?_
    split
    all_goals exact reports_pure trivial

theorem reports_selectItem : selectItem.Reports texts fun _ => True := by
  refine reports_bind (reports_accept _) fun _ _ => reports_ite (fun _ => ?_) fun _ => ?_
  · exact reports_pure trivial
  refine reports_bind reports_name fun first hfirst => reports_bind (reports_accept _) fun _ _ => ?_
  refine reports_ite (fun _ => ?_) fun _ => ?_
  · refine reports_bind (reports_aggregateCall hfirst) fun _ _ => ?_
    exact reports_bind reports_outputName? fun _ _ => reports_pure trivial
  · refine reports_bind (reports_qualifiedFrom first) fun _ _ => ?_
    exact reports_bind reports_outputName? fun _ _ => reports_pure trivial

theorem reports_joinKind? : joinKind?.Reports texts fun _ => True := by
  have hjoin : ∀ kind : Option JoinKind, (do keyword .join; return kind).Reports texts
      fun _ => True := fun kind =>
    reports_bind (reports_keyword _) fun _ _ => reports_pure trivial
  have houter : ∀ (kind : JoinKind) (allowOuter : Bool),
      (joinKind?.outerJoin kind allowOuter).Reports texts fun _ => True := by
    intro kind allowOuter
    refine reports_bind reports_next fun _ _ => reports_ite (fun _ => ?_) fun _ => hjoin _
    exact reports_bind (reports_acceptKeyword _) fun _ _ => hjoin _
  refine reports_bind reports_peek? fun token? _ => ?_
  split
  next => exact hjoin _
  next => exact houter _ _
  next => exact houter _ _
  next => exact houter _ _
  next => exact houter _ _
  next => exact reports_pure trivial

theorem reports_joinAfter (leftQualifier : String) (kind : JoinKind) :
    (joinAfter leftQualifier kind).Reports texts fun _ => True := by
  refine reports_bind reports_name fun _ _ => reports_bind reports_otherName? fun _ _ => ?_
  refine reports_bind (reports_keyword _) fun _ _ => reports_bind reports_columnName fun _ _ => ?_
  refine reports_bind (reports_symbol _) fun _ _ => reports_bind reports_columnName fun _ _ => ?_
  exact reports_ite (fun _ => reports_pure trivial) fun _ => reports_pure trivial

theorem reports_joins (leftQualifier : String) :
    (joins leftQualifier).Reports texts fun _ => True := by
  refine reports_loop trivial fun read _ => reports_bind reports_joinKind? fun kind? _ => ?_
  split
  next => exact reports_pure trivial
  next => exact reports_bind (reports_joinAfter _ _) fun _ _ => reports_pure trivial

theorem reports_sortKey : sortKey.Reports texts fun _ => True := by
  refine reports_bind (reports_keyword _) fun _ _ => reports_bind reports_columnName fun _ _ => ?_
  exact reports_bind (reports_takeIf? _) fun _ _ => reports_pure trivial

theorem reports_groupColumns : groupColumns.Reports texts fun _ => True :=
  reports_bind (reports_keyword _) fun _ _ =>
    (reports_commaSeparated reports_columnName).mono fun _ _ => trivial

theorem reports_query : query.Reports texts fun q =>
    (Statement.select q).Literals (Value.SingleLineUnless texts) := by
  refine reports_bind (reports_keyword _) fun _ _ => ?_
  refine reports_bind (reports_acceptKeyword _) fun _ _ => ?_
  refine reports_bind (reports_commaSeparated reports_selectItem) fun _ _ => ?_
  refine reports_bind (reports_keyword _) fun _ _ => reports_bind reports_name fun _ _ => ?_
  refine reports_bind reports_otherName? fun _ _ => reports_bind (reports_joins _) fun _ _ => ?_
  refine reports_bind (reports_clause? _ reports_conditionGroup) fun _ hfilter => ?_
  refine reports_bind (reports_clause? _ reports_groupColumns) fun _ _ => ?_
  refine reports_bind (reports_clause? _ reports_conditionGroup) fun _ hhaving => ?_
  refine reports_bind (reports_clause? _ reports_sortKey) fun _ _ => ?_
  refine reports_bind (reports_clause? _ reports_rowCount) fun _ _ => ?_
  refine reports_bind (reports_clause? _ reports_rowCount) fun _ _ => ?_
  exact reports_pure ⟨hfilter, hhaving⟩

/-! ## Statements -/

/-- **Whatever stands in the way of a statement is shown as a single line or as a text of it.** -/
theorem reports_statement : statement.Reports texts fun s =>
    s.Literals (Value.SingleLineUnless texts) := by
  have hany : anyStatement.Reports texts fun s => s.Literals (Value.SingleLineUnless texts) := by
    refine reports_bind reports_peek? fun first hfirst => ?_
    split
    next => exact reports_createTable
    next => exact reports_bind reports_query fun q hq => reports_pure hq
    next => exact reports_insert
    next => exact reports_update
    next => exact reports_delete
    next =>
      refine reports_fail (Error.singleLineUnless_unsupportedStatement fun t ht => ?_)
      exact (hfirst t ht).singleLineUnless
  refine reports_bind hany fun s hs => reports_bind (reports_accept _) fun _ _ => ?_
  refine reports_bind reports_peek? fun token? htoken => ?_
  split
  next token => exact reports_outOfPlace (htoken token rfl) rfl rfl (by decide)
  next => exact reports_pure hs

end Grammar

/-! ## Texts -/

namespace Statement

/-- The literals of a well-formed statement may be told apart from its form. -/
theorem WellFormed.of_literals {literal P : Value → Prop} {s : Statement}
    (h : s.WellFormed literal) (hP : s.Literals P) : s.WellFormed P := by
  have hgroup : ∀ group : ConditionGroup, group.WellFormed literal →
      (∀ c ∈ group.conditions, P c.literal) → group.WellFormed P := fun group hgroup hliterals =>
    ⟨hgroup.ne_nil, fun c hc => ⟨(hgroup.condition c hc).operand, hliterals c hc⟩, hgroup.eq_and⟩
  cases s with
  | createTable name columns key => exact h
  | insert table columns values =>
      obtain ⟨htable, hne, hcolumns, hnodup, hlength, hvalues⟩ := h
      exact ⟨htable, hne, hcolumns, hnodup, hlength, fun v hv => ⟨hP v hv, (hvalues v hv).2⟩⟩
  | update table assignments test =>
      obtain ⟨htable, hne, hassigned, htest⟩ := h
      refine ⟨htable, hne, fun entry hentry => ?_, fun condition hcondition => ?_⟩
      · exact ⟨(hassigned entry hentry).1, hP.1 entry hentry⟩
      · exact ⟨(htest condition hcondition).isName, hP.2 condition hcondition⟩
  | delete table test =>
      refine ⟨h.1, fun condition hcondition => ?_⟩
      exact ⟨(h.2 condition hcondition).isName, hP condition hcondition⟩
  | select q =>
      obtain ⟨hitems, hitem, hsource, hother, hjoin, hfilter, hne, hgroupBy, hhaving, horderBy⟩ := h
      exact ⟨hitems, hitem, hsource, hother, hjoin,
        fun group hq => hgroup group (hfilter group hq) (hP.1 group hq), hne, hgroupBy,
        fun group hq => hgroup group (hhaving group hq) (hP.2 group hq), horderBy⟩

/-- **A text that is read and one that is not alike show nothing but single lines and what stands
between quotes in them.** -/
theorem reports_parse {texts : String → Prop} {sql : String}
    (h : ∀ s, QuotedIn sql s → texts s) :
    FailsOnly (Error.SingleLineUnless texts) (parse sql) ∧
      ∀ s, parse sql = .ok s → s.WellFormed (Value.SingleLineUnless texts) := by
  have hstatement : Grammar.statement.Reports texts fun s =>
      s.Literals (Value.SingleLineUnless texts) := Grammar.reports_statement
  obtain ⟨herror, hread⟩ := hstatement (TokenStream.ofText sql).fault
    (TokenStream.ofText sql).tokens (fun cause hcause => TokenStream.singleLineUnless_fault hcause)
    fun t ht => ⟨TokenStream.spellable_of_mem_ofChars ht, fun s hs => h s (by rwa [hs] at ht)⟩
  refine ⟨failsOnly_map _ herror, fun s hs => ?_⟩
  obtain ⟨⟨s', rest⟩, hrun, rfl⟩ := map_eq_ok_iff.mp hs
  exact (wellFormed_of_parse hs).of_literals (hread s' rest hrun)

end Statement

end RelStore
