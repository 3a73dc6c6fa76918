import RelStore.Grammar.Query
import RelStore.Proofs.Grammar.Reading.Change

/-!
# Reading queries

The keywords that also serve as names never stand where the rest of a query could begin with them
as either: a clause is told by a reserved word, or a name is due.

| read | ends before |
| --- | --- |
| item | a comma, the word before the first table |
| other name of a table | any keyword but its own |
| join | a join, any later clause |
| clause | any later clause |

A join is read with its sides in the order that puts the joined table's column on the right, so
it does not matter which way round a reversible one was written.
-/

namespace RelStore

open RelStore.Parser
open Lexeme

namespace Grammar

variable {fault : Option SyntaxError} {rest : List Token}

/-! ## Names given to columns and tables -/

theorem run_outputName?_asLexemes {s : String} (h : IsName s) (rest : List Token) :
    outputName?.run fault (tokens (asLexemes s) ++ rest) = .ok (some s, rest) := by
  unfold outputName? clause? acceptKeyword asLexemes
  rw [tokens_cons, tokens_cons, List.cons_append, List.cons_append, token_keyword,
    run_bind_of_ok (run_accept_self _ _), if_pos rfl, run_bind_of_ok (run_name h _)]
  rfl

theorem run_outputName?_of_head?_ne (h : rest.head? ≠ some (.keyword .asWord)) :
    outputName?.run fault rest = .ok (none, rest) := by
  unfold outputName? clause? acceptKeyword
  rw [run_bind_of_ok (run_accept_of_head?_ne h)]
  rfl

theorem run_otherName?_asLexemes {s : String} (h : IsName s) (rest : List Token) :
    otherName?.run fault (tokens (asLexemes s) ++ rest) = .ok (some s, rest) := by
  unfold otherName? acceptKeyword asLexemes
  rw [tokens_cons, tokens_cons, List.cons_append, List.cons_append, token_keyword,
    run_bind_of_ok (run_accept_self _ _), if_pos rfl, run_bind_of_ok (run_name h _)]
  rfl

/-- Only a word is taken for another name without being announced. -/
theorem run_otherName?_of_headIn {ks : List Keyword} (h : HeadIn ks rest) (hks : .asWord ∉ ks) :
    otherName?.run fault rest = .ok (none, rest) := by
  have has : rest.head? ≠ some (.keyword .asWord) :=
    h.head?_ne _ fun k hk heq => hks (by cases heq; exact hk)
  unfold otherName? acceptKeyword
  rw [run_bind_of_ok (run_accept_of_head?_ne has), if_neg (by simp)]
  refine (run_bind_of_ok (run_takeIf?_of_head? fun token htoken => ?_)).trans rfl
  obtain ⟨k, -, rfl⟩ := h token htoken
  rfl

/-! ## Select lists -/

/-- What may follow an item of a select list. -/
def EndsItem (tokens : List Token) : Prop :=
  tokens.head? = some (.symbol .comma) ∨ tokens.head? = some (.keyword .fromWord)

theorem EndsItem.head?_ne {tokens : List Token} (h : EndsItem tokens) {token : Token}
    (hcomma : token ≠ .symbol .comma) (hfrom : token ≠ .keyword .fromWord) :
    tokens.head? ≠ some token := by
  rcases h with h | h
  · rw [h]
    simpa using hcomma.symm
  · rw [h]
    simpa using hfrom.symm

/-- The output name of a column is written unless it is the name the column has anyway. -/
theorem run_columnOutput {column outputName : String} (h : outputName = column ∨ IsName outputName)
    (hrest : EndsItem rest) :
    let following := tokens (if outputName = column then [] else asLexemes outputName) ++ rest
    following.head? ≠ some (.symbol .openParen) ∧ following.head? ≠ some (.symbol .period) ∧
      ∃ name?, outputName?.run fault following = .ok (name?, rest) ∧
        name?.getD column = outputName := by
  intro following
  by_cases heq : outputName = column
  · have hfollowing : following = rest := by simp [following, heq]
    rw [hfollowing]
    exact ⟨hrest.head?_ne (by simp) (by simp), hrest.head?_ne (by simp) (by simp), none,
      run_outputName?_of_head?_ne (hrest.head?_ne (by simp) (by simp)), heq.symm⟩
  · have hfollowing : following = tokens (asLexemes outputName) ++ rest := by
      simp [following, heq]
    rw [hfollowing]
    exact ⟨by simp [asLexemes], by simp [asLexemes], some outputName,
      run_outputName?_asLexemes (h.resolve_left heq) rest, rfl⟩

theorem run_selectItem_column {column outputName : String} (hcolumn : IsColumn column)
    (houtput : outputName = column ∨ IsName outputName) (hrest : EndsItem rest) :
    selectItem.run fault (tokens (SelectItem.column column outputName).lexemes ++ rest) =
      .ok (.column column outputName, rest) := by
  obtain ⟨first, suffix, hfirst, htokens, hsuffix, hread⟩ := exists_first_of_isColumn hcolumn
  obtain ⟨hnotParen, hnotPeriod, name?, hname, heq⟩ := run_columnOutput houtput hrest
  -- after the first name stands the rest of a qualified one, its output name, or the item's end
  have hhead : (suffix ++ (tokens (if outputName = column then [] else asLexemes outputName) ++
      rest)).head? ≠ some (.symbol .openParen) := by
    rcases hsuffix with rfl | hsuffix
    · exact hnotParen
    · simp [List.head?_append, hsuffix]
  unfold selectItem
  rw [SelectItem.lexemes, tokens_append, List.append_assoc, htokens, List.cons_append,
    run_bind_of_ok (run_accept_of_head?_ne (by simpa using token_name_ne_symbol first _)),
    if_neg (by simp), run_bind_of_ok (run_name hfirst _),
    run_bind_of_ok (run_accept_of_head?_ne hhead), if_neg (by simp),
    run_bind_of_ok (hread hnotPeriod), run_bind_of_ok hname, heq]
  rfl

theorem run_selectItem_aggregate {call : Aggregate} {outputName : String}
    (h : (SelectItem.aggregate call outputName).WellFormed) (hrest : EndsItem rest) :
    selectItem.run fault (tokens (SelectItem.aggregate call outputName).lexemes ++ rest) =
      .ok (.aggregate call outputName, rest) := by
  obtain ⟨functionName, hfunction, hlexemes⟩ := exists_lexemes_aggregate h
  obtain ⟨following, htokens, name?, hname, heq⟩ : ∃ following,
      tokens (SelectItem.aggregate call outputName).lexemes ++ rest =
        tokens (callLexemes functionName call) ++ following ∧
      ∃ name?, outputName?.run fault following = .ok (name?, rest) ∧
        name?.getD (call.defaultOutputName functionName) = outputName := by
    rcases hlexemes with ⟨houtput, hlexemes⟩ | ⟨heq, hlexemes⟩
    · refine ⟨tokens (asLexemes outputName) ++ rest, ?_, some outputName,
        run_outputName?_asLexemes houtput rest, rfl⟩
      rw [hlexemes, tokens_append, List.append_assoc]
    · exact ⟨rest, by rw [hlexemes], none,
        run_outputName?_of_head?_ne (hrest.head?_ne (by simp) (by simp)), heq⟩
  have hfunctionName := AggregateFunction.isName_of_ofName? hfunction
  unfold selectItem
  rw [htokens, tokens_callLexemes,
    run_bind_of_ok (run_accept_of_head?_ne (by simpa using token_name_ne_symbol functionName _)),
    if_neg (by simp), run_bind_of_ok (run_name hfunctionName _),
    run_bind_of_ok (run_accept_self _ _), if_pos rfl,
    run_bind_of_ok (run_aggregateCall h.1 hfunction), run_bind_of_ok hname, heq]
  rfl

theorem run_selectItem {item : SelectItem} (h : item.WellFormed) (hrest : EndsItem rest) :
    selectItem.run fault (tokens item.lexemes ++ rest) = .ok (item, rest) := by
  cases item with
  | star =>
      unfold selectItem
      rw [SelectItem.lexemes, tokens_cons, List.cons_append, token_symbol,
        run_bind_of_ok (run_accept_self _ _)]
      rfl
  | column column outputName => exact run_selectItem_column h.1 h.2 hrest
  | aggregate call outputName => exact run_selectItem_aggregate h hrest

/-- An item begins with a name or a star, hence with no reserved word. -/
theorem head?_selectItem_ne {item : SelectItem} (h : item.WellFormed) {k : Keyword}
    (hk : k.isReserved = true) (rest : List Token) :
    (tokens item.lexemes ++ rest).head? ≠ some (.keyword k) := by
  cases item with
  | star => simp [SelectItem.lexemes]
  | column column outputName =>
      obtain ⟨first, suffix, hfirst, htokens, -, -⟩ := exists_first_of_isColumn h.1
      rw [SelectItem.lexemes, tokens_append, htokens]
      simpa using token_name_ne_reserved hfirst hk
  | aggregate call outputName =>
      obtain ⟨functionName, hfunction, hlexemes⟩ := exists_lexemes_aggregate h
      have hname := token_name_ne_reserved (AggregateFunction.isName_of_ofName? hfunction) hk
      rcases hlexemes with ⟨-, hlexemes⟩ | ⟨-, hlexemes⟩ <;>
        · rw [hlexemes, callLexemes]
          simpa using hname

/-! ## Joins -/

theorem run_joinKind? (kind : JoinKind) (rest : List Token) :
    joinKind?.run fault (tokens kind.lexemes ++ rest) = .ok (some kind, rest) := by
  cases kind <;> rfl

theorem run_joinKind?_of_headIn {ks : List Keyword} (h : HeadIn ks rest)
    (hks : ∀ k ∈ [Keyword.join, .inner, .left, .right, .full], k ∉ ks) :
    joinKind?.run none rest = .ok (none, rest) := by
  cases rest with
  | nil => rfl
  | cons token rest =>
      obtain ⟨k, hk, rfl⟩ := h token rfl
      unfold joinKind?
      rw [run_bind_of_ok (run_peek?_cons _ _ _)]
      cases k <;> first
        | rfl
        | exact absurd hk (hks _ (by simp))

/-- The join that is read where the given one is written: with the sides exchanged if the left one
alone is a column of the joined table. -/
def oriented (j : Join) : Join :=
  if qualifierOf? j.left = some j.rightQualifier ∧ qualifierOf? j.right ≠ some j.rightQualifier then
    j.reversed
  else j

theorem oriented_eq_self {j : Join} {qualifier : String} (h : j.WellFormed qualifier) :
    oriented j = j :=
  if_neg h.oriented

theorem oriented_reversed {j : Join} (h : j.Reversible) : oriented j.reversed = j :=
  if_pos h

theorem map_oriented {qualifier : String} {joined written : List Join}
    (h : ∀ j ∈ joined, j.WellFormed qualifier) (hwritten : SomeReversed joined written) :
    written.map oriented = joined := by
  induction hwritten with
  | nil => rfl
  | cons hj _ ih =>
      obtain ⟨hhead, htail⟩ := List.forall_mem_cons.mp h
      rw [List.map_cons, ih htail]
      rcases hj with rfl | ⟨hreversible, rfl⟩
      · rw [oriented_eq_self hhead]
      · rw [oriented_reversed hreversible]

theorem run_joinAfter {j : Join} (htable : IsName j.table) (hqualifier : IsName j.rightQualifier)
    (hleft : IsColumn j.left) (hright : IsColumn j.right)
    (hrest : rest.head? ≠ some (.symbol .period)) :
    (joinAfter j.leftQualifier j.kind).run fault ((Lexeme.name j.table).token ::
        (tokens (if j.rightQualifier = j.table then [] else asLexemes j.rightQualifier) ++
          .keyword .onWord :: (tokens (columnLexemes j.left) ++
            .symbol .equal :: (tokens (columnLexemes j.right) ++ rest)))) =
      .ok (oriented j, rest) := by
  have halias : ∀ following, HeadIn [.onWord] following → ∃ name?,
      otherName?.run fault
        (tokens (if j.rightQualifier = j.table then [] else asLexemes j.rightQualifier) ++
          following) = .ok (name?, following) ∧ name?.getD j.table = j.rightQualifier := by
    intro following hfollowing
    split
    next heq => exact ⟨none, run_otherName?_of_headIn hfollowing (by decide), heq.symm⟩
    next => exact ⟨some j.rightQualifier, run_otherName?_asLexemes hqualifier _, rfl⟩
  obtain ⟨name?, hname, heq⟩ := halias (.keyword .onWord :: (tokens (columnLexemes j.left) ++
    .symbol .equal :: (tokens (columnLexemes j.right) ++ rest))) (by
      rintro token ⟨⟩
      exact ⟨_, List.mem_cons_self, rfl⟩)
  unfold joinAfter
  rw [run_bind_of_ok (run_name htable _), run_bind_of_ok hname, heq,
    run_bind_of_ok (run_keyword _ _), run_bind_of_ok (run_columnName hleft (by simp)),
    run_bind_of_ok (run_symbol _ _), run_bind_of_ok (run_columnName hright hrest)]
  dsimp only
  unfold oriented
  -- the sides are exchanged if the left one alone is a column of the joined table
  by_cases hreversed : qualifierOf? j.left = some j.rightQualifier ∧
      qualifierOf? j.right ≠ some j.rightQualifier
  · rw [if_pos hreversed, if_pos hreversed]
    rfl
  · rw [if_neg hreversed, if_neg hreversed]
    rfl

theorem tokens_joinLexemes (j : Join) (rest : List Token) :
    tokens j.lexemes ++ rest = tokens j.kind.lexemes ++ ((Lexeme.name j.table).token ::
      (tokens (if j.rightQualifier = j.table then [] else asLexemes j.rightQualifier) ++
        .keyword .onWord :: (tokens (columnLexemes j.left) ++
          .symbol .equal :: (tokens (columnLexemes j.right) ++ rest)))) := by
  simp [Join.lexemes]

/-- Joins begin with a keyword, so where they may stand no column goes on. -/
theorem headIn_joins {ks : List Keyword} (hrest : HeadIn ks rest) (joined : List Join) :
    HeadIn (.join :: .left :: .right :: .full :: ks)
      ((joined.flatMap fun j => tokens j.lexemes) ++ rest) := by
  cases joined with
  | nil =>
      intro token htoken
      obtain ⟨k, hk, rfl⟩ := hrest token htoken
      exact ⟨k, by simp [hk], rfl⟩
  | cons j joined =>
      rw [List.flatMap_cons, List.append_assoc, tokens_joinLexemes]
      intro token htoken
      cases hkind : j.kind <;> rw [hkind] at htoken <;> cases htoken <;>
        exact ⟨_, by simp, rfl⟩

/-- **Joins are read with their sides the right way round**, however they are written. -/
theorem run_joins {qualifier : String} {joined written : List Join}
    (h : ∀ j ∈ joined, j.WellFormed qualifier) (hwritten : SomeReversed joined written)
    {ks : List Keyword} (hrest : HeadIn ks rest)
    (hks : ∀ k ∈ [Keyword.join, .inner, .left, .right, .full], k ∉ ks) :
    (joins qualifier).run none ((written.flatMap fun j => tokens j.lexemes) ++ rest) =
      .ok (joined, rest) := by
  -- a join written the other way round has the same table and qualifiers
  have hparts : ∀ j' ∈ written, (IsName j'.table ∧ IsName j'.rightQualifier) ∧
      (IsColumn j'.left ∧ IsColumn j'.right) ∧ j'.leftQualifier = qualifier := by
    intro j' hj'
    obtain ⟨j, hj, rfl | ⟨-, rfl⟩⟩ := exists_mem_of_forall₂ hwritten hj'
    · have hwf := h _ hj
      exact ⟨⟨hwf.table, hwf.rightQualifier⟩, ⟨hwf.left, hwf.right⟩, hwf.leftQualifier_eq⟩
    · have hwf := h _ hj
      exact ⟨⟨hwf.table, hwf.rightQualifier⟩, ⟨hwf.right, hwf.left⟩, hwf.leftQualifier_eq⟩
  have hfold := foldl_append_singleton [] (written.map oriented)
  rw [List.foldl_map, List.nil_append, map_oriented h hwritten] at hfold
  rw [← hfold]
  unfold joins
  refine run_loop_flatMap (fun j => tokens (Join.lexemes j)) _ (fun _ js => js ⊆ written)
    ?_ ?_ ?_ ?_ (List.Subset.refl _)
  · intro j
    cases hkind : j.kind <;> simp [Join.lexemes, hkind, JoinKind.lexemes]
  · intro read j js hjs
    exact (List.cons_subset.mp hjs).2
  · intro read j js hjs
    obtain ⟨⟨htable, hqualifier⟩, ⟨hleft, hright⟩, heq⟩ := hparts j (hjs List.mem_cons_self)
    have hperiod := (headIn_joins hrest js).head?_ne (.symbol .period) (by simp)
    rw [tokens_joinLexemes, run_bind_of_ok (run_joinKind? _ _)]
    dsimp only
    rw [← heq, run_bind_of_ok (run_joinAfter htable hqualifier hleft hright hperiod)]
    rfl
  · intro read _
    rw [run_bind_of_ok (run_joinKind?_of_headIn hrest hks)]
    rfl

/-! ## The other clauses -/

theorem run_sortKey {key : SortKey} (h : IsColumn key.column) (rest : List Token) :
    sortKey.run fault (.keyword .byWord :: (tokens key.lexemes ++ rest)) = .ok (key, rest) := by
  obtain ⟨column, direction⟩ := key
  unfold sortKey
  rw [SortKey.lexemes, tokens_append, List.append_assoc, run_bind_of_ok (run_keyword _ _),
    run_bind_of_ok (run_columnName h (by simp)), tokens_cons, List.cons_append]
  cases direction <;> rfl

theorem run_groupColumns {columns : List String} (hne : columns ≠ [])
    (h : ∀ column ∈ columns, IsColumn column) (hcomma : rest.head? ≠ some (.symbol .comma))
    (hperiod : rest.head? ≠ some (.symbol .period)) :
    groupColumns.run fault (.keyword .byWord ::
      (tokens (separatedBy (.symbol .comma) (columns.map columnLexemes)) ++ rest)) =
        .ok (columns, rest) := by
  cases columns with
  | nil => exact absurd rfl hne
  | cons column columns =>
      unfold groupColumns
      rw [run_bind_of_ok (run_keyword _ _), tokens_separatedBy]
      refine run_commaSeparated (fun c => tokens (columnLexemes c))
        (fun b hb tokens htokens => ?_) hcomma
      refine run_columnName (h b hb) ?_
      rcases htokens with htokens | rfl
      · simp [htokens]
      · exact hperiod

theorem run_items {items : List SelectItem} (hne : items ≠ [])
    (h : ∀ item ∈ items, item.WellFormed) (rest : List Token) :
    (commaSeparated selectItem).run fault
      (tokens (separatedBy (.symbol .comma) (items.map SelectItem.lexemes)) ++
        .keyword .fromWord :: rest) = .ok (items, .keyword .fromWord :: rest) := by
  cases items with
  | nil => exact absurd rfl hne
  | cons item items =>
      rw [tokens_separatedBy]
      refine run_commaSeparated (fun i => tokens (SelectItem.lexemes i))
        (fun b hb tokens htokens => ?_) (by simp)
      refine run_selectItem (h b hb) ?_
      rcases htokens with htokens | rfl
      · exact .inl htokens
      · exact .inr rfl

/-! ## Queries -/

theorem run_distinct {distinct : Bool} (h : rest.head? ≠ some (.keyword .distinct)) :
    (acceptKeyword .distinct).run fault
      (tokens (if distinct = true then [.keyword .distinct] else []) ++ rest) =
        .ok (distinct, rest) := by
  unfold acceptKeyword
  cases distinct with
  | true => exact run_accept_self _ _
  | false => exact run_accept_of_head?_ne h

theorem run_otherName? {otherName : Option String} (h : ∀ name ∈ otherName, IsName name)
    {ks : List Keyword} (hrest : HeadIn ks rest) (hks : .asWord ∉ ks) :
    otherName?.run fault (tokens (optionalLexemes asLexemes otherName) ++ rest) =
      .ok (otherName, rest) := by
  cases otherName with
  | none => exact run_otherName?_of_headIn hrest hks
  | some name => exact run_otherName?_asLexemes (h name rfl) rest

/-- Conditions on rows or on groups. -/
theorem run_groupClause {k : Keyword} {group? : Option ConditionGroup}
    (h : ∀ group ∈ group?, group.WellFormed Value.Spellable) {ks : List Keyword}
    (hrest : HeadIn ks rest) (hks : ∀ k' ∈ [k, .and, .or], k' ∉ ks) :
    (clause? k conditionGroup).run fault
      (tokens (optionalLexemes (.keyword k :: ·.lexemes) group?) ++ rest) = .ok (group?, rest) := by
  have hne : ∀ k' ∈ [k, .and, .or], rest.head? ≠ some (.keyword k') := fun k' hk' =>
    hrest.head?_ne _ fun k'' hk'' heq => hks k' hk' (by cases heq; exact hk'')
  refine run_clause? (fun group hgroup => ?_) (hne k (by simp))
  exact run_conditionGroup (h group hgroup) (hne .and (by simp)) (hne .or (by simp))

theorem run_groupByClause {groupBy : Option (List String)} (hne : groupBy ≠ some [])
    (h : ∀ columns ∈ groupBy, ∀ column ∈ columns, IsColumn column) {ks : List Keyword}
    (hrest : HeadIn ks rest) (hks : .group ∉ ks) :
    (clause? .group groupColumns).run fault
      (tokens (optionalLexemes (fun columns => .keyword .group :: .keyword .byWord ::
        separatedBy (.symbol .comma) (columns.map columnLexemes)) groupBy) ++ rest) =
          .ok (groupBy, rest) := by
  refine run_clause? (fun columns hcolumns => ?_)
    (hrest.head?_ne _ fun k hk heq => hks (by cases heq; exact hk))
  refine run_groupColumns ?_ (h columns hcolumns) (hrest.head?_ne _ (by simp))
    (hrest.head?_ne _ (by simp))
  rintro rfl
  exact hne hcolumns

theorem run_orderByClause {orderBy : Option SortKey} (h : ∀ key ∈ orderBy, IsColumn key.column)
    {ks : List Keyword} (hrest : HeadIn ks rest) (hks : .order ∉ ks) :
    (clause? .order sortKey).run fault
      (tokens (optionalLexemes (.keyword .order :: .keyword .byWord :: ·.lexemes) orderBy) ++
        rest) = .ok (orderBy, rest) := by
  refine run_clause? (fun key hkey => ?_)
    (hrest.head?_ne _ fun k hk heq => hks (by cases heq; exact hk))
  exact run_sortKey (h key hkey) _

theorem run_countClause {k : Keyword} (count? : Option UInt64) {ks : List Keyword}
    (hrest : HeadIn ks rest) (hks : k ∉ ks) :
    (clause? k rowCount).run fault
      (tokens (optionalLexemes (.keyword k :: countLexemes ·) count?) ++ rest) =
        .ok (count?, rest) := by
  refine run_clause? (fun count _ => run_rowCount count _) ?_
  exact hrest.head?_ne _ fun k' hk' heq => hks (by cases heq; exact hk')

/-- **A query is read from its lexemes**, some of its joins written the other way round. -/
theorem run_query {q : Query} (h : q.WellFormed Value.Spellable) {written : List Join}
    (hwritten : SomeReversed q.joins written) :
    query.run none (tokens ({ q with joins := written } : Query).lexemes) = .ok (q, []) := by
  obtain ⟨distinct, items, source, joined, filter, groupBy, having, orderBy, limit, offset⟩ := q
  -- after each clause stands nothing, or the keyword of a later clause
  have hoffset := (headIn_nil []).optional .offset countLexemes offset
  have hlimit := hoffset.optional .limit countLexemes limit
  have horderBy := hlimit.optional .order (.keyword .byWord :: SortKey.lexemes ·) orderBy
  have hhaving := horderBy.optional .having ConditionGroup.lexemes having
  have hgroupBy := hhaving.optional .group (fun columns => .keyword .byWord ::
    separatedBy (.symbol .comma) (columns.map columnLexemes)) groupBy
  have hfilter := hgroupBy.optional .whereWord ConditionGroup.lexemes filter
  have hjoins := headIn_joins hfilter written
  have htokens : tokens (Query.lexemes
      ⟨distinct, items, source, written, filter, groupBy, having, orderBy, limit, offset⟩) =
      .keyword .select :: (tokens (if distinct = true then [.keyword .distinct] else []) ++
        (tokens (separatedBy (.symbol .comma) (items.map SelectItem.lexemes)) ++
          .keyword .fromWord :: (Lexeme.name source.name).token ::
            (tokens (optionalLexemes asLexemes source.otherName) ++
              ((written.flatMap fun j => tokens j.lexemes) ++
                (tokens (optionalLexemes (.keyword .whereWord :: ·.lexemes) filter) ++
                  (tokens (optionalLexemes (fun columns => .keyword .group :: .keyword .byWord ::
                      separatedBy (.symbol .comma) (columns.map columnLexemes)) groupBy) ++
                    (tokens (optionalLexemes (.keyword .having :: ·.lexemes) having) ++
                      (tokens (optionalLexemes (.keyword .order :: .keyword .byWord :: ·.lexemes)
                          orderBy) ++
                        (tokens (optionalLexemes (.keyword .limit :: countLexemes ·) limit) ++
                          (tokens (optionalLexemes (.keyword .offset :: countLexemes ·) offset) ++
                            [])))))))))) := by
    simp [Query.lexemes, tokens_flatMap]
  have hdistinct : ∀ following, (tokens (separatedBy (.symbol .comma)
      (items.map SelectItem.lexemes)) ++ following).head? ≠ some (.keyword .distinct) := by
    intro following
    cases items with
    | nil => exact absurd rfl h.items_ne_nil
    | cons item items =>
        rw [tokens_separatedBy, List.append_assoc]
        exact head?_selectItem_ne (h.item item List.mem_cons_self) rfl _
  unfold query
  rw [htokens, run_bind_of_ok (run_keyword _ _), run_bind_of_ok (run_distinct (hdistinct _)),
    run_bind_of_ok (run_items h.items_ne_nil h.item _), run_bind_of_ok (run_keyword _ _),
    run_bind_of_ok (run_name h.source _),
    run_bind_of_ok (run_otherName? h.otherName hjoins (by simp)),
    run_bind_of_ok (run_joins h.join hwritten hfilter (by simp)),
    run_bind_of_ok (run_groupClause h.filter hgroupBy (by simp)),
    run_bind_of_ok (run_groupByClause h.groupBy_ne_nil h.groupBy hhaving (by simp)),
    run_bind_of_ok (run_groupClause h.having horderBy (by simp)),
    run_bind_of_ok (run_orderByClause h.orderBy hlimit (by simp)),
    run_bind_of_ok (run_countClause limit hoffset (by simp)),
    run_bind_of_ok (run_countClause offset (headIn_nil []) (by simp))]
  rfl

end Grammar

end RelStore
