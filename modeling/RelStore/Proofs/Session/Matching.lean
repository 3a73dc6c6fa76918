import RelStore.Proofs.Plan.Filtered
import RelStore.Proofs.Session.Spellable

/-!
# Which rows a statement is about

A query for the rows of a table in which a column equals a literal, a deletion of them and an update
of them look the column up and judge the rows on ways of their own: the query by names that may be
qualified, by types that are kept by name and through a filter, the changes by the columns of the
table and their own test.  On a catalog that statements have made they are about the same rows
(`execute_matching`), because no column of a table has a point in its name and no two have one name.
-/

namespace RelStore

/-! ## One column under two searches -/

theorem IsName.unqualified? {name : String} (h : IsName name) :
    RelStore.unqualified? name = none :=
  unqualified?_eq_none (h.notMem (by decide))

/-- A column that is found bears a name. -/
theorem isName_of_position? {s : Schema} (hnames : ∀ column ∈ s.columns, IsName column.name)
    {column : String} {i : Nat} (hi : s.position? column = some i) : IsName column := by
  obtain ⟨definition, hdefinition, rfl⟩ := Schema.exists_column_of_position? hi
  exact hnames definition (List.mem_of_getElem? hdefinition)

/-- The names of a table's columns stand where the columns do. -/
theorem Schema.idxOf?_columnNames (s : Schema) (name : String) :
    s.columnNames.idxOf? name = s.position? name := by
  unfold columnNames position? List.idxOf?
  rw [List.findIdx?_map]
  rfl

/-- A name without a point means the column of a table that bears it. -/
theorem position?_columnNames {s : Schema} (hs : ∀ column ∈ s.columns, IsName column.name)
    {name : String} (hname : IsName name) :
    RelStore.position? s.columnNames name = s.position? name := by
  have hqualified : qualifiedPositions s.columnNames name = [] := by
    refine List.filter_eq_nil_iff.mpr fun i _ => ?_
    cases hcolumn : s.columnNames[i]? with
    | none => simp
    | some column =>
        obtain ⟨definition, hdefinition, rfl⟩ := List.mem_map.mp (List.mem_of_getElem? hcolumn)
        simp [(hs definition hdefinition).unqualified?]
  unfold RelStore.position?
  rw [s.idxOf?_columnNames, hname.unqualified?, hqualified]
  cases s.position? name <;> rfl

namespace Table

variable {t : Table} {test : EqualityTest}

/-- **A condition on the rows of a table is bound as a test is.** -/
theorem bindCondition_eq_bindTest (ht : t.Valid)
    (hnames : ∀ column ∈ t.schema.columns, IsName column.name) (hname : IsName test.column) :
    Relation.bindCondition t.schema.columnNames
        (.ofList (t.schema.columns.map fun column => (column.name, column.type)))
        ⟨.column test.column, .equal, test.literal⟩ =
      (t.bindTest test).map fun bound => ⟨bound.1, .equal, bound.2⟩ := by
  have hposition := position?_columnNames hnames hname
  unfold bindTest
  cases hfound : t.schema.position? test.column with
  | none =>
      have hlocate : t.schema.locate test.column = .error (.columnNotFound test.column) := by
        unfold Schema.locate
        rw [hfound]
      unfold Relation.bindCondition RelStore.position
      dsimp only
      rw [hposition, hfound, hlocate]
      rfl
  | some i =>
      obtain ⟨column, hcolumn, -, hlocate⟩ := Schema.exists_locate_of_position? hfound
      have hi : RelStore.position t.schema.columnNames test.column = .ok i :=
        position_eq_ok_iff.mpr (hposition.trans hfound)
      rw [bindCondition_column ht hi hcolumn, hlocate, ok_bind]
      dsimp only
      cases column.type.castComparand test.literal <;> rfl

/-- The rows of a table that a query lets pass are those that pass the test. -/
theorem filter_ofTable (ht : t.Valid)
    (hnames : ∀ column ∈ t.schema.columns, IsName column.name) (hname : IsName test.column) :
    (Relation.ofTable t).filter ⟨.and, [⟨.column test.column, .equal, test.literal⟩]⟩
        (.ofList (t.schema.columns.map fun column => (column.name, column.type))) =
      (t.bindTest test).map fun bound =>
        ⟨t.schema.columnNames, t.rows.filter (matchesAt bound)⟩ := by
  have hbind := bindCondition_eq_bindTest ht hnames hname
  rw [Relation.filter_single]
  unfold Relation.ofTable
  dsimp only
  rw [hbind]
  cases t.bindTest test <;> rfl

end Table

/-! ## The three statements -/

/-- The query for the rows of a table in which the column equals the literal. -/
def matchingQuery (table : String) (test : EqualityTest) : Query :=
  { distinct := false, items := [.star], source := ⟨table, none⟩, joins := []
    filter := some ⟨.and, [⟨.column test.column, .equal, test.literal⟩]⟩, groupBy := none
    having := none, orderBy := none, limit := none, offset := none }

variable {c : Catalog} {table : String} {test : EqualityTest}

/-- The query answers the rows of the table that pass the test. -/
theorem answer_matchingQuery (hc : c.Valid) (hs : c.Spellable) (hname : IsName test.column) :
    (matchingQuery table test).answer c = (do
      let t ← c.find table
      let bound ← t.bindTest test
      return ⟨t.schema.columnNames, t.rows.filter (matchesAt bound)⟩) := by
  cases hfind : c.find table with
  | error e =>
      unfold Query.answer Plan.ofQuery Plan.sourceStages matchingQuery
      simp only [hfind, error_bind]
  | ok t =>
      obtain ⟨key, -, hget⟩ := Catalog.find_eq_ok hfind
      let source : TableReference := ⟨table, none⟩
      have ht : c.find source.name = .ok t := hfind
      have hanswer : (matchingQuery table test).answer c = _ :=
        Query.answer_filtered_table hc ht rfl
      rw [hanswer, Table.filter_ofTable (hc.of_find hfind) (hs key t hget).isName_column hname,
        ok_bind]
      cases t.bindTest test <;> rfl

/-- The statement answers what the query does. -/
theorem execute_selection {sql : String} (hc : c.Valid) (hs : c.Spellable)
    (hname : IsName test.column)
    (h : Statement.parse sql = .ok (.select (matchingQuery table test))) :
    Session.execute c sql = ((do
      let t ← c.find table
      let bound ← t.bindTest test
      return .rows ⟨t.schema.columnNames, t.rows.filter (matchesAt bound)⟩), c) := by
  rw [Session.execute_select h, answer_matchingQuery hc hs hname]
  cases c.find table with
  | error e => rfl
  | ok t =>
      rw [ok_bind, ok_bind]
      cases t.bindTest test <;> rfl

/-- Of a table that has been cleared of the rows that pass the test, the query answers none. -/
theorem execute_selection_cleared {sql key : String} {t : Table} {bound : Nat × Value}
    (hkey : c.resolve? table = some key) (hget : c.tables.get? key = some t)
    (hbound : t.bindTest test = .ok bound) (hname : IsName test.column)
    (h : Statement.parse sql = .ok (.select (matchingQuery table test)))
    {cleared : Catalog} (hcleared : cleared =
      ⟨c.tables.insert key { t with rows := t.rows.filter fun row => !matchesAt bound row }⟩)
    (hc : cleared.Valid) (hs : cleared.Spellable) :
    Session.execute cleared sql = (.ok (.rows ⟨t.schema.columnNames, []⟩), cleared) := by
  rw [execute_selection hc hs hname h]
  let remaining : Table := { t with rows := t.rows.filter fun row => !matchesAt bound row }
  have hfind : cleared.find table = .ok remaining := by
    rw [hcleared]
    exact Catalog.find_insert hkey hget
  -- the schema binds the test as before, and no row that is left passes it
  have hbound' : remaining.bindTest test = .ok bound := hbound
  have hnone : remaining.rows.filter (matchesAt bound) = [] := by
    simp [remaining, List.filter_filter]
  rw [hfind, ok_bind, hbound', ok_bind, hnone]
  rfl

/-- A deletion removes the rows of the table that pass the test. -/
theorem execute_delete {sql : String}
    (h : Statement.parse sql = .ok (.delete table (some test))) :
    Session.execute c sql = Plan.commit c (do
      let t ← c.find table
      let bound ← t.bindTest test
      return (.deleted (t.rows.countP (matchesAt bound)),
        ⟨c.tables.insert ((c.resolve? table).getD table)
          { t with rows := t.rows.filter (!matchesAt bound ·) }⟩)) := by
  have hplan : Session.plan c sql = .ok (.delete table test) := by
    unfold Session.plan
    rw [h]
    rfl
  unfold Session.execute
  rw [hplan]
  show Plan.commit c (Plan.runDelete c table test) = _
  unfold Plan.runDelete Catalog.change
  cases c.find table with
  | error e => rfl
  | ok t =>
      unfold Table.delete
      dsimp only
      rw [ok_bind, ok_bind]
      cases t.bindTest test <;> rfl

/-- An update that succeeds counts the rows of the table that pass the test, and leaves the others
where they are. -/
theorem execute_update {sql key : String} {assignments : NameMap Value} {count : Nat}
    {after : Relation} {t : Table} {bound : Nat × Value} (hkey : c.resolve? table = some key)
    (hget : c.tables.get? key = some t) (hbound : t.bindTest test = .ok bound)
    (hparse : Statement.parse sql = .ok (.update table assignments (some test)))
    (hanswer : (Session.execute c sql).1 = .ok (.updated count after)) :
    count = t.rows.countP (matchesAt bound) ∧
      (Session.execute c sql).2 = ⟨c.tables.insert key { t with rows := after.rows }⟩ ∧
      after.rows.length = t.rows.length ∧
      ∀ (i : Nat) row, t.rows[i]? = some row → matchesAt bound row = false →
        after.rows[i]? = some row := by
  have h := execution c sql
  rw [hanswer] at h
  generalize (Session.execute c sql).2 = c' at h ⊢
  cases h with
  | updated hparse' hkey' hget' hupdate =>
      cases hparse.symm.trans hparse'
      cases hkey.symm.trans hkey'
      cases hget.symm.trans hget'
      obtain ⟨assigned, boundTest, -, htest, -, rfl, rfl⟩ := Table.update_eq_ok hupdate
      obtain ⟨bound', hbound', rfl⟩ := map_eq_ok_iff.mp htest
      cases hbound.symm.trans hbound'
      refine ⟨rfl, rfl, List.length_map _, fun i row hrow hnot => ?_⟩
      show (Table.updatedRows assigned (some bound) t.rows)[i]? = some row
      unfold Table.updatedRows
      rw [List.getElem?_map, hrow, Option.map_some, Option.all_some, hnot,
        if_neg Bool.false_ne_true]

/-- **A query, a deletion and an update are about the same rows.**  On the catalog that a run of
statements ends with, take a deletion of the rows of a table in which a column equals a literal, and
the query for them.  Either both fail, with one error and without a change, or there are rows
selected in the table such that

* the query answers these, in their order;
* the deletion counts these and leaves the others, in their order, so that the query then answers
  no rows;
* every update of them that succeeds counts these too, and leaves the others where they are. -/
theorem execute_matching (statements : List String) {deletion selection : String}
    (hdeletion : Statement.parse deletion = .ok (.delete table (some test)))
    (hselection : Statement.parse selection = .ok (.select (matchingQuery table test))) :
    let c := (Session.executeAll ∅ statements).2
    (∃ e, Session.execute c selection = (.error e, c) ∧
      Session.execute c deletion = (.error e, c)) ∨
    ∃ key t, ∃ selected : Row → Bool, c.resolve? table = some key ∧ c.tables.get? key = some t ∧
      let others : Catalog :=
        ⟨c.tables.insert key { t with rows := t.rows.filter fun row => !selected row }⟩
      Session.execute c selection =
        (.ok (.rows ⟨t.schema.columnNames, t.rows.filter selected⟩), c) ∧
      Session.execute c deletion = (.ok (.deleted (t.rows.filter selected).length), others) ∧
      Session.execute others selection = (.ok (.rows ⟨t.schema.columnNames, []⟩), others) ∧
      ∀ change assignments count after,
        Statement.parse change = .ok (.update table assignments (some test)) →
        (Session.execute c change).1 = .ok (.updated count after) →
        count = (t.rows.filter selected).length ∧
        (Session.execute c change).2 = ⟨c.tables.insert key { t with rows := after.rows }⟩ ∧
        after.rows.length = t.rows.length ∧
        ∀ (i : Nat) row, t.rows[i]? = some row → selected row = false →
          after.rows[i]? = some row := by
  intro c
  have hc : c.Valid := Catalog.valid_executeAll statements
  have hs : c.Spellable := Catalog.spellable_executeAll statements
  have hname : IsName test.column := ((Statement.wellFormed_of_parse hdeletion).2 test rfl).isName
  have hselect := execute_selection hc hs hname hselection
  have hdelete := execute_delete (c := c) hdeletion
  cases hfind : c.find table with
  | error e =>
      rw [hfind] at hselect hdelete
      exact .inl ⟨e, hselect, hdelete⟩
  | ok t =>
      obtain ⟨key, hkey, hget⟩ := Catalog.find_eq_ok hfind
      rw [hfind, ok_bind] at hselect hdelete
      cases hbound : t.bindTest test with
      | error e =>
          rw [hbound] at hselect hdelete
          exact .inl ⟨e, hselect, hdelete⟩
      | ok bound =>
          rw [hbound, ok_bind] at hselect hdelete
          rw [hkey, List.countP_eq_length_filter] at hdelete
          have hafter := execution c deletion
          rw [hdelete] at hafter
          refine .inr ⟨key, t, matchesAt bound, hkey, hget, hselect, hdelete, ?_, ?_⟩
          · exact execute_selection_cleared hkey hget hbound hname hselection rfl
              (hc.execution hafter) (hs.execution hafter)
          · intro change assignments count after hchange hupdated
            rw [← List.countP_eq_length_filter]
            exact execute_update hkey hget hbound hchange hupdated

/-- A text compared with a column of integers, two rows of which it selects. -/
theorem execute_matching_textLiteral :
    let c := (Session.executeAll ∅ ["CREATE TABLE t (a INT)", "INSERT INTO t (a) VALUES (1)",
      "INSERT INTO t (a) VALUES (null)", "INSERT INTO t (a) VALUES (1)"]).2
    Session.execute c "SELECT * FROM t WHERE a = '1'" =
        (.ok (.rows ⟨["a"], [[.integer 1], [.integer 1]]⟩), c) ∧
      ∃ others, Session.execute c "DELETE FROM t WHERE a = '1'" = (.ok (.deleted 2), others) ∧
        (Session.execute others "SELECT * FROM t WHERE a = '1'").1 = .ok (.rows ⟨["a"], []⟩) := by
  intro c
  have hc : c = ⟨.ofList [("t", ⟨⟨"t", [⟨"a", .integer⟩], none⟩,
      [[.integer 1], [.null], [.integer 1]]⟩)]⟩ := by decide +kernel
  have hdeletion : Statement.parse "DELETE FROM t WHERE a = '1'" =
      .ok (.delete "t" (some ⟨"a", .text "1"⟩)) := by decide +kernel
  have hselection : Statement.parse "SELECT * FROM t WHERE a = '1'" =
      .ok (.select (matchingQuery "t" ⟨"a", .text "1"⟩)) := by decide +kernel
  have hanswer : Session.execute c "SELECT * FROM t WHERE a = '1'" =
      (.ok (.rows ⟨["a"], [[.integer 1], [.integer 1]]⟩), c) := by
    rw [Session.execute_select hselection, hc]
    decide +kernel
  refine ⟨hanswer, ?_⟩
  rcases execute_matching _ hdeletion hselection with
    ⟨e, hfail, -⟩ | ⟨key, t, selected, -, -, hselect, hdelete, hagain, -⟩
  · cases hfail.symm.trans hanswer
  · obtain ⟨hcolumns, hrows⟩ : t.schema.columnNames = ["a"] ∧
        t.rows.filter selected = [[.integer 1], [.integer 1]] := by
      simpa using congrArg Prod.fst (hselect.symm.trans hanswer)
    rw [hrows] at hdelete
    rw [hcolumns] at hagain
    exact ⟨_, hdelete, congrArg Prod.fst hagain⟩

end RelStore
