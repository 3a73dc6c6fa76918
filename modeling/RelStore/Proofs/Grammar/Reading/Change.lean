import RelStore.Grammar.Change
import RelStore.Proofs.Grammar.Reading.Condition
import RelStore.Proofs.NameMap

/-!
# Reading declarations and changes

Lists of these statements stand between parentheses or, in an update, before the test.  What an
item adds to the list depends on the items before it only where names must not be repeated.
-/

namespace RelStore

open RelStore.Parser
open Lexeme

namespace Grammar

variable {fault : Option SyntaxError} {rest : List Token}

/-! ## Declarations -/

theorem run_columnType (type : ColumnType) (rest : List Token) :
    columnType.run fault (.keyword type.keyword :: rest) = .ok (type, rest) := by
  cases type <;> rfl

theorem run_columnDefinition {column : ColumnDefinition} (h : IsName column.name)
    (hrest : rest.head? ≠ some (.keyword .primary)) :
    columnDefinition.run fault (tokens column.lexemes ++ rest) = .ok (column, rest) := by
  obtain ⟨name, type, isKey⟩ := column
  unfold columnDefinition ColumnDefinition.lexemes acceptKeyword
  rw [tokens_cons, tokens_cons, List.cons_append, List.cons_append, token_keyword,
    run_bind_of_ok (run_name h _), run_bind_of_ok (run_columnType _ _)]
  cases isKey with
  | false =>
      rw [show tokens (if false = true then keyLexemes else []) ++ rest = rest from rfl,
        run_bind_of_ok (run_accept_of_head?_ne hrest)]
      rfl
  | true =>
      show (accept (.keyword .primary) >>= _).run fault
        (.keyword .primary :: .keyword .key :: rest) = _
      rw [run_bind_of_ok (run_accept_self _ _), if_pos rfl, run_bind_of_ok (run_keyword _ _)]
      rfl

theorem run_keyConstraint {column : String} (h : IsName column) (rest : List Token) :
    keyConstraint.run fault (.keyword .key :: .symbol .openParen ::
      (Lexeme.name column).token :: .symbol .closeParen :: rest) = .ok (column, rest) := by
  unfold keyConstraint
  rw [run_bind_of_ok (run_keyword _ _), run_bind_of_ok (run_symbol _ _),
    run_bind_of_ok (run_name h _), run_bind_of_ok (run_symbol _ _)]
  rfl

/-- An element of a declaration, a column or a key constraint. -/
abbrev TableElement := ColumnDefinition ⊕ String

namespace TableElement

/-- The name that the element is about. -/
def name : TableElement → String
  | .inl column => column.name
  | .inr key => key

/-- The lexemes of the element. -/
def lexemes : TableElement → List Lexeme
  | .inl column => column.lexemes
  | .inr key => keyLexemes ++ parenthesized [[.name key]]

theorem tokens_inr (key : String) (rest : List Token) :
    tokens (lexemes (.inr key)) ++ rest = .keyword .primary :: .keyword .key ::
      .symbol .openParen :: (Lexeme.name key).token :: .symbol .closeParen :: rest := by
  simp [lexemes, keyLexemes, parenthesized, separatedBy]

/-- What was read, with the element. -/
def addTo (read : List ColumnDefinition × Option String) :
    TableElement → List ColumnDefinition × Option String
  | .inl column => (read.1 ++ [column], read.2)
  | .inr key => (read.1, some key)

end TableElement

/-- The elements of a declaration, the key constraint last. -/
def tableElementList (columns : List ColumnDefinition) (key : Option String) :
    List TableElement :=
  columns.map .inl ++ key.toList.map .inr

theorem foldl_addTo (columns : List ColumnDefinition) (key : Option String) :
    (tableElementList columns key).foldl TableElement.addTo ([], none) = (columns, key) := by
  have hcolumns : ∀ before : List ColumnDefinition,
      (columns.map Sum.inl).foldl TableElement.addTo (before, none) =
        (before ++ columns, none) := by
    induction columns with
    | nil => simp
    | cons column columns ih =>
        intro before
        rw [List.map_cons, List.foldl_cons, TableElement.addTo, ih]
        simp
  rw [tableElementList, List.foldl_append, hcolumns]
  cases key <;> rfl

/-- Reads one element and a comma that may follow it. -/
def tableElement (read : List ColumnDefinition × Option String) :
    Parser ((List ColumnDefinition × Option String) × Bool) := do
  if ← acceptKeyword .primary then
    let column ← keyConstraint
    if read.2.isSome then malformed .repeatedKeyConstraint
    return ((read.1, some column), ← accept (.symbol .comma))
  else
    let column ← columnDefinition
    return ((read.1 ++ [column], read.2), ← accept (.symbol .comma))

theorem tableElements_eq : tableElements = loop ([], none) tableElement := rfl

theorem token_name_ne_reserved {s : String} (h : IsName s) {k : Keyword}
    (hk : k.isReserved = true) : (Lexeme.name s).token ≠ .keyword k := by
  cases h with
  | word _ hkeyword =>
      rw [token_name_of_word hkeyword]
      simp
  | @keyword k' hk' =>
      rw [token_name_of_keyword]
      rintro ⟨⟩
      rw [hk] at hk'
      contradiction

/-- An element is read if it is no second key constraint, and a comma after it if there is one. -/
theorem run_tableElement {read : List ColumnDefinition × Option String} {element : TableElement}
    (hname : IsName element.name) (hkey : read.2 = none ∨ element.isLeft = true)
    {following : List Token} {more : Bool}
    (hfollowing : following.head? ≠ some (.keyword .primary))
    (hmore : (accept (.symbol .comma)).run fault following = .ok (more, rest)) :
    (tableElement read).run fault (tokens element.lexemes ++ following) =
      .ok ((element.addTo read, more), rest) := by
  unfold tableElement acceptKeyword
  cases element with
  | inl column =>
      have hhead : (tokens (TableElement.lexemes (.inl column)) ++ following).head? ≠
          some (.keyword .primary) := by
        intro heq
        exact token_name_ne_reserved hname rfl (Option.some.inj heq)
      rw [run_bind_of_ok (run_accept_of_head?_ne hhead), if_neg (by simp), TableElement.lexemes,
        run_bind_of_ok (run_columnDefinition hname hfollowing), run_bind_of_ok hmore]
      rfl
  | inr key =>
      have hnone : read.2 = none := hkey.resolve_right (by simp)
      rw [TableElement.tokens_inr, run_bind_of_ok (run_accept_self _ _), if_pos rfl,
        run_bind_of_ok (run_keyConstraint (show IsName key from hname) _)]
      dsimp only
      rw [if_neg (by simp [hnone]), run_bind_of_ok hmore]
      rfl

/-- **The elements of a declaration are read in order**, of which only the last is a key. -/
theorem run_tableElements {columns : List ColumnDefinition} {key : Option String}
    (hcolumns : ∀ column ∈ columns, IsName column.name) (hkey : ∀ column ∈ key, IsName column)
    {element : TableElement} {elements : List TableElement}
    (helements : tableElementList columns key = element :: elements)
    (hcomma : rest.head? ≠ some (.symbol .comma))
    (hprimary : rest.head? ≠ some (.keyword .primary)) :
    tableElements.run fault
        (tokens element.lexemes ++ (elements.flatMap fun e => .symbol .comma :: tokens e.lexemes) ++
          rest) =
      .ok ((columns, key), rest) := by
  have hnames : ∀ e ∈ element :: elements, IsName e.name := by
    intro e he
    rw [← helements, tableElementList] at he
    rcases List.mem_append.mp he with he | he
    · obtain ⟨column, hcolumn, rfl⟩ := List.mem_map.mp he
      exact hcolumns column hcolumn
    · obtain ⟨column, hcolumn, rfl⟩ := List.mem_map.mp he
      exact hkey column (Option.mem_toList.mp hcolumn)
  have hlefts : (element :: elements).Pairwise fun e _ => e.isLeft = true := by
    rw [← helements, tableElementList, List.pairwise_append, List.pairwise_map]
    refine ⟨List.pairwise_of_forall (by simp), ?_, ?_⟩
    · cases key <;> simp
    · intro e he _ _
      obtain ⟨column, -, rfl⟩ := List.mem_map.mp he
      rfl
  rw [tableElements_eq, ← foldl_addTo columns key, helements]
  -- a key constraint is the last element, so none is read before another element
  refine run_loop_separated (fun e => tokens (TableElement.lexemes e)) TableElement.addTo
    (fun read es => (∀ e ∈ es, IsName e.name) ∧ (es.Pairwise fun e _ => e.isLeft = true) ∧
      (read.2 = none ∨ ∀ e ∈ es, e.isLeft = true))
    ?_ ?_ ?_ ⟨hnames, hlefts, .inl rfl⟩
  · rintro read e es ⟨hname, hleft, hkey⟩
    refine ⟨(List.forall_mem_cons.mp hname).2, (List.pairwise_cons.mp hleft).2, ?_⟩
    cases e with
    | inl column => exact hkey.imp_right fun h => (List.forall_mem_cons.mp h).2
    | inr key => exact .inr fun e he => absurd ((List.pairwise_cons.mp hleft).1 e he) (by simp)
  · rintro read e e' es tokens ⟨hname, hleft, _⟩
    have hlast : e.isLeft = true := (List.pairwise_cons.mp hleft).1 e' List.mem_cons_self
    exact run_tableElement (hname e List.mem_cons_self) (.inr hlast) (by simp)
      (run_accept_self _ _)
  · rintro read e ⟨hname, _, hkey⟩
    exact run_tableElement (hname e List.mem_cons_self)
      (hkey.imp_right fun h => h e List.mem_cons_self) hprimary (run_accept_of_head?_ne hcomma)

theorem run_createTable {table : String} {columns : List ColumnDefinition} {key : Option String}
    (h : (Statement.createTable table columns key).WellFormed Value.Spellable)
    (rest : List Token) :
    createTable.run fault (tokens (Statement.createTable table columns key).lexemes ++ rest) =
      .ok (.createTable table columns key, rest) := by
  obtain ⟨htable, hcolumns, hkey, hne⟩ := h
  have hphrases : columns.map ColumnDefinition.lexemes ++
      (key.map fun key => keyLexemes ++ parenthesized [[.name key]]).toList =
        (tableElementList columns key).map TableElement.lexemes := by
    cases key <;> simp [tableElementList, TableElement.lexemes]
  cases helements : tableElementList columns key with
  | nil =>
      obtain ⟨hcolumns, hkey⟩ := List.append_eq_nil_iff.mp helements
      exact absurd (by simpa using hkey) (hne (by simpa using hcolumns))
  | cons element elements =>
      unfold createTable
      rw [Statement.lexemes, hphrases, helements, tokens_cons, tokens_cons, tokens_cons,
        List.cons_append, List.cons_append, List.cons_append, tokens_parenthesized, token_keyword,
        token_keyword, run_bind_of_ok (run_keyword _ _), run_bind_of_ok (run_next_cons _ _ _)]
      dsimp only
      rw [run_bind_of_ok (run_name htable _), run_bind_of_ok (run_symbol _ _),
        run_bind_of_ok (run_tableElements hcolumns hkey helements (by simp) (by simp))]
      dsimp only
      rw [run_bind_of_ok (run_symbol _ _)]
      rfl

/-! ## Lists in parentheses -/

/-- Items up to a closing parenthesis are read, each after the ones before it. -/
theorem run_untilClosed {α : Type} {item : List α → Parser α} {phrase : α → List Token} {a : α}
    {as : List α}
    (hitem : ∀ before b after, before ++ b :: after = a :: as → ∀ tokens,
      (item before).run fault (phrase b ++ tokens) = .ok (b, tokens)) :
    (untilClosed item).run fault
        (phrase a ++ (as.flatMap fun b => .symbol .comma :: phrase b) ++
          .symbol .closeParen :: rest) = .ok (a :: as, rest) := by
  have hfold := foldl_append_singleton [] (a :: as)
  rw [List.nil_append] at hfold
  rw [← hfold]
  -- what was read and what is to come make up the whole list
  refine run_loop_separated phrase _ (fun before after => before ++ after = a :: as)
    ?_ ?_ ?_ rfl
  · intro before b after h
    simpa using h
  · intro before b c after tokens h
    rw [run_bind_of_ok (hitem before b (c :: after) h _), run_bind_of_ok (run_next_cons _ _ _)]
    rfl
  · intro before b h
    rw [run_bind_of_ok (hitem before b [] h _), run_bind_of_ok (run_next_cons _ _ _)]
    rfl

/-- A column of an insertion is read if none before it has its name. -/
theorem run_insertColumn {column : String} {before : List String} (hname : IsName column)
    (hnew : column ∉ before) (rest : List Token) :
    (do
      let column ← name
      if column ∈ before then malformed (.repeatedInsertColumn column)
      return column : Parser String).run fault (tokens [.name column] ++ rest) =
        .ok (column, rest) := by
  rw [tokens_cons, List.cons_append, run_bind_of_ok (run_name hname _)]
  dsimp only
  rw [if_neg hnew]
  rfl

theorem run_insert {table : String} {columns : List String} {values : List Value}
    (h : (Statement.insert table columns values).WellFormed Value.Spellable)
    (rest : List Token) :
    insert.run fault (tokens (Statement.insert table columns values).lexemes ++ rest) =
      .ok (.insert table columns values, rest) := by
  obtain ⟨htable, hne, hcolumns, hnodup, hlength, hvalues⟩ := h
  cases columns with
  | nil => exact absurd rfl hne
  | cons column columns =>
      cases values with
      | nil => simp at hlength
      | cons value values =>
          have hnew : ∀ before b after, before ++ b :: after = column :: columns →
              IsName b ∧ b ∉ before := by
            intro before b after hsplit
            rw [← hsplit] at hnodup hcolumns
            exact ⟨hcolumns b (by simp),
              fun hmem => (List.nodup_append.mp hnodup).2.2 b hmem b List.mem_cons_self rfl⟩
          have hliteral : ∀ before b after, before ++ b :: after = value :: values →
              b.Spellable ∧ ∀ x, b ≠ .boolean x := by
            intro before b after hsplit
            exact hvalues b (hsplit ▸ by simp)
          unfold insert
          rw [Statement.lexemes, tokens_append, tokens_cons, tokens_cons, tokens_cons,
            List.append_assoc, List.cons_append, List.cons_append, List.cons_append,
            tokens_parenthesized, token_keyword, token_keyword,
            run_bind_of_ok (run_keyword _ _), run_bind_of_ok (run_keyword _ _),
            run_bind_of_ok (run_name htable _), run_bind_of_ok (run_symbol _ _),
            run_bind_of_ok (run_untilClosed fun before b after hsplit =>
              run_insertColumn (hnew before b after hsplit).1 (hnew before b after hsplit).2),
            tokens_cons, List.cons_append, tokens_parenthesized, token_keyword,
            run_bind_of_ok (run_keyword _ _), run_bind_of_ok (run_symbol _ _),
            run_bind_of_ok (run_untilClosed fun before b after hsplit =>
              run_literal (hliteral before b after hsplit).1
                (.inr (hliteral before b after hsplit).2))]
          dsimp only
          -- both lists are read before their lengths are compared
          rw [if_neg (by simpa using hlength)]
          rfl

/-! ## Updates and deletions -/

/-- Reads one assignment and a comma that may follow it. -/
def assignment (read : NameMap Value) : Parser (NameMap Value × Bool) := do
  let column ← name
  symbol .equal
  let value ← literal true
  if read.contains column then malformed (.repeatedUpdateColumn column)
  return (read.insert column value, ← accept (.symbol .comma))

theorem assignments_eq : assignments = loop ∅ assignment := rfl

theorem run_assignment {read : NameMap Value} {entry : String × Value} (hname : IsName entry.1)
    (hliteral : entry.2.Spellable) (hnew : ∀ other ∈ read.entries, other.1 < entry.1)
    {following : List Token} {more : Bool}
    (hmore : (accept (.symbol .comma)).run fault following = .ok (more, rest)) :
    (assignment read).run fault (tokens (assignmentLexemes entry) ++ following) =
      .ok ((read.insert entry.1 entry.2, more), rest) := by
  have hcontains : read.contains entry.1 = false :=
    NameMap.contains_eq_false_iff.mpr fun other hother => NameMap.ne_of_lt (hnew other hother)
  unfold assignment
  rw [assignmentLexemes, tokens_cons, tokens_cons, List.cons_append, List.cons_append,
    run_bind_of_ok (run_name hname _), token_symbol, run_bind_of_ok (run_symbol _ _),
    run_bind_of_ok (run_literal hliteral (.inl rfl) _)]
  dsimp only
  rw [if_neg (by simp [hcontains]), run_bind_of_ok hmore]
  rfl

/-- **The assignments of an update are read in the order of their columns.** -/
theorem run_assignments {assigned : NameMap Value} {entry : String × Value}
    {entries : List (String × Value)} (hentries : assigned.entries = entry :: entries)
    (h : ∀ e ∈ assigned.entries, IsName e.1 ∧ e.2.Spellable)
    (hrest : rest.head? ≠ some (.symbol .comma)) :
    assignments.run fault
        (tokens (assignmentLexemes entry) ++
          (entries.flatMap fun e => .symbol .comma :: tokens (assignmentLexemes e)) ++ rest) =
      .ok (assigned, rest) := by
  have hordered := assigned.ordered
  have hfold := NameMap.ofList_entries assigned
  rw [NameMap.ofList, hentries] at hfold
  rw [hentries] at h hordered
  rw [assignments_eq, ← hfold]
  -- the names to come are greater than those read, so none is a repetition
  refine run_loop_separated (fun e => tokens (assignmentLexemes e)) _
    (fun read es => (∀ e ∈ es, IsName e.1 ∧ e.2.Spellable) ∧
      (read.entries ++ es).Pairwise (fun p q => p.1 < q.1)) ?_ ?_ ?_ ⟨h, hordered⟩
  · rintro read e es ⟨hwf, hpairwise⟩
    refine ⟨(List.forall_mem_cons.mp hwf).2, ?_⟩
    have hnew := (List.pairwise_append.mp hpairwise).2.2
    rw [NameMap.entries_insert_of_forall_lt fun other hother =>
      hnew other hother e List.mem_cons_self]
    simpa using hpairwise
  · rintro read e e' es tokens ⟨hwf, hpairwise⟩
    obtain ⟨hname, hliteral⟩ := hwf e List.mem_cons_self
    have hnew := (List.pairwise_append.mp hpairwise).2.2
    exact run_assignment hname hliteral
      (fun other hother => hnew other hother e List.mem_cons_self) (run_accept_self _ _)
  · rintro read e ⟨hwf, hpairwise⟩
    obtain ⟨hname, hliteral⟩ := hwf e List.mem_cons_self
    have hnew := (List.pairwise_append.mp hpairwise).2.2
    exact run_assignment hname hliteral
      (fun other hother => hnew other hother e List.mem_cons_self)
      (run_accept_of_head?_ne hrest)

theorem run_whereTest {test : Option EqualityTest}
    (h : ∀ condition ∈ test, EqualityTest.WellFormed Value.Spellable condition)
    (hrest : rest.head? ≠ some (.keyword .whereWord)) :
    (clause? .whereWord equalityTest).run fault
      (tokens (optionalLexemes (.keyword .whereWord :: ·.lexemes) test) ++ rest) =
        .ok (test, rest) :=
  run_clause? (fun condition hcondition => run_equalityTest (h condition hcondition) _) hrest

theorem run_update {table : String} {assigned : NameMap Value} {test : Option EqualityTest}
    (h : (Statement.update table assigned test).WellFormed Value.Spellable) {ks : List Keyword}
    (hrest : HeadIn ks rest) (hwhere : rest.head? ≠ some (.keyword .whereWord)) :
    update.run fault (tokens (Statement.update table assigned test).lexemes ++ rest) =
      .ok (.update table assigned test, rest) := by
  obtain ⟨htable, hne, hassigned, htest⟩ := h
  cases hentries : assigned.entries with
  | nil => exact absurd hentries hne
  | cons entry entries =>
      have hhead := (hrest.optional .whereWord EqualityTest.lexemes test).head?_ne
        (.symbol .comma) (by simp)
      unfold update
      rw [Statement.lexemes, hentries, tokens_append, tokens_cons, tokens_cons, tokens_cons,
        tokens_separatedBy, List.append_assoc, List.cons_append, List.cons_append,
        List.cons_append, token_keyword, token_keyword, token_symbol,
        run_bind_of_ok (run_keyword _ _), run_bind_of_ok (run_name htable _),
        run_bind_of_ok (run_keyword _ _),
        run_bind_of_ok (run_assignments hentries hassigned hhead),
        run_bind_of_ok (run_whereTest htest hwhere)]
      rfl

theorem run_delete {table : String} {test : Option EqualityTest}
    (h : (Statement.delete table test).WellFormed Value.Spellable)
    (hwhere : rest.head? ≠ some (.keyword .whereWord)) :
    delete.run fault (tokens (Statement.delete table test).lexemes ++ rest) =
      .ok (.delete table test, rest) := by
  obtain ⟨htable, htest⟩ := h
  unfold delete
  rw [Statement.lexemes, tokens_cons, tokens_cons, tokens_cons, List.cons_append,
    List.cons_append, List.cons_append, token_keyword, token_keyword,
    run_bind_of_ok (run_keyword _ _), run_bind_of_ok (run_keyword _ _),
    run_bind_of_ok (run_name htable _), run_bind_of_ok (run_whereTest htest hwhere)]
  rfl

end Grammar

end RelStore
