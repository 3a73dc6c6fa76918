import RelStore.Proofs.Grammar.AcceptedQuery
import RelStore.Proofs.Plan.Answer
import RelStore.Proofs.Session.Reachable
import RelStore.Proofs.Session.RowChange

/-!
# Rows stay in the order of their insertion

Over a run of statements every row of a table is given a label: the position in the run of the
insertion that added it.  An insertion adds its row with its own position at the end, an update
keeps the labels, a deletion takes away those of the rows that it removes (`RowChange.relabel`).
Without its labels the list is the rows of the table (`rowsOf_catalogBefore`), so what is proved of
labels holds of the rows that a query shows.

Everything here is proved of the first `n` statements by induction on `n`, one case for each change
of the rows:

| what holds of the labelled rows | why an insertion at `n` keeps it | why a deletion keeps it |
| --- | --- | --- |
| the labels increase | they are below `n` | those left are some of them |
| a label is there if it was inserted and not deleted | no row before had it | rows have one label |
| a row that was not updated is as inserted | its row is new | the rows left are as they were |
-/

namespace RelStore

/-- A row of a table and the position in the run of the insertion that added it. -/
structure LabelledRow where
  /-- The position. -/
  label : Nat
  /-- The row, as it is now. -/
  row : Row
deriving DecidableEq, Repr

namespace RowChange

/-- The labelled rows after a change at the position in the run. -/
def relabel (position : Nat) : RowChange → List LabelledRow → List LabelledRow
  | added row, rows => rows ++ [⟨position, row⟩]
  | assigned cells test, rows => rows.map fun r =>
    ⟨r.label, if test.all (matchesAt · r.row) then assignCells cells r.row else r.row⟩
  | removed test, rows => rows.filter fun r => !matchesAt test r.row

/-- Labels do not matter to what becomes of the rows. -/
theorem map_row_relabel (change : RowChange) (position : Nat) (rows : List LabelledRow) :
    (change.relabel position rows).map LabelledRow.row =
      change.apply (rows.map LabelledRow.row) := by
  cases change with
  | added row => exact List.map_append
  | assigned cells test =>
      simp only [relabel, apply, Table.updatedRows, List.map_map, Function.comp_def]
  | removed test => simp only [relabel, apply, List.filter_map, Function.comp_def]

end RowChange

namespace Session

section Run

variable (statements : List String)

/-- The catalog before the statement at the position. -/
def catalogBefore (n : Nat) : Catalog :=
  (executeAll ∅ (statements.take n)).2

variable (key : String)

/-- What the statement at the position does to the rows of the table under the name. -/
def changeAt? (n : Nat) : Option RowChange :=
  statements[n]?.bind (rowChange? (catalogBefore statements n) key)

/-- The labelled rows of the table under the name, before the statement at the position. -/
def labelledRows : Nat → List LabelledRow
  | 0 => []
  | n + 1 =>
    (changeAt? statements key n).elim (labelledRows n) (·.relabel n (labelledRows n))

/-- The statement at the position added the row to the table. -/
def InsertedAt (n : Nat) (row : Row) : Prop :=
  changeAt? statements key n = some (.added row)

/-- The statement at the position is a deletion that removed the row with the label. -/
def DeletedAt (label n : Nat) : Prop :=
  ∃ test row, changeAt? statements key n = some (.removed test) ∧
    ⟨label, row⟩ ∈ labelledRows statements key n ∧ matchesAt test row = true

/-- The statement at the position is an update whose test the row with the label passed. -/
def UpdatedAt (label n : Nat) : Prop :=
  ∃ cells test row, changeAt? statements key n = some (.assigned cells test) ∧
    ⟨label, row⟩ ∈ labelledRows statements key n ∧ test.all (matchesAt · row) = true

end Run

variable {statements : List String} {key : String} {n : Nat}

/-! ## The run, statement by statement -/

theorem catalogBefore_succ {sql : String} (h : statements[n]? = some sql) :
    catalogBefore statements (n + 1) = (execute (catalogBefore statements n) sql).2 := by
  unfold catalogBefore
  rw [List.take_add_one, h, Option.toList_some, executeAll_append]
  rfl

/-- Past the end of the run nothing changes. -/
theorem catalogBefore_succ_of_none (h : statements[n]? = none) :
    catalogBefore statements (n + 1) = catalogBefore statements n := by
  unfold catalogBefore
  rw [List.take_add_one, h, Option.toList_none, List.append_nil]

theorem catalogBefore_length : catalogBefore statements statements.length =
    (executeAll ∅ statements).2 := by
  unfold catalogBefore
  rw [List.take_length]

/-- The answers of a run are those of its statements, each on the catalog before it. -/
theorem answer_eq {sql : String} (h : statements[n]? = some sql) :
    (executeAll ∅ statements).1[n]? = some (execute (catalogBefore statements n) sql).1 := by
  obtain ⟨hn, rfl⟩ := List.getElem?_eq_some_iff.mp h
  have hsplit : statements.take n ++ statements[n] :: statements.drop (n + 1) = statements := by
    rw [List.getElem_cons_drop, List.take_append_drop]
  have hlength : (executeAll ∅ (statements.take n)).1.length = n := by
    rw [length_executeAll, List.length_take]
    omega
  have hanswers :=
    executeAll_append ∅ (statements.take n) (statements[n] :: statements.drop (n + 1))
  rw [hsplit] at hanswers
  rw [hanswers, List.getElem?_append_right hlength.le, hlength, Nat.sub_self]
  rfl

theorem lt_length_of_changeAt? {change : RowChange}
    (h : changeAt? statements key n = some change) : n < statements.length := by
  obtain ⟨sql, hsql, -⟩ := Option.bind_eq_some_iff.mp h
  exact (List.getElem?_eq_some_iff.mp hsql).1

/-- **The labelled rows are the rows of the table.** -/
theorem rowsOf_catalogBefore (statements : List String) (key : String) (n : Nat) :
    (catalogBefore statements n).rowsOf key =
      (labelledRows statements key n).map LabelledRow.row := by
  induction n with
  | zero => rfl
  | succ n ih =>
      unfold labelledRows changeAt?
      cases hsql : statements[n]? with
      | none => rw [catalogBefore_succ_of_none hsql, ih]; rfl
      | some sql =>
          rw [catalogBefore_succ hsql, rows_execute, Option.bind_some, ih]
          cases rowChange? (catalogBefore statements n) key sql with
          | none => rfl
          | some change => exact (change.map_row_relabel n _).symm

/-- A table that is there before a statement is there before every later one, under its schema. -/
theorem exists_get?_catalogBefore {m : Nat} (hle : n ≤ m) {t : Table}
    (h : (catalogBefore statements n).tables.get? key = some t) :
    ∃ t', (catalogBefore statements m).tables.get? key = some t' ∧ t'.schema = t.schema := by
  induction m, hle using Nat.le_induction with
  | base => exact ⟨t, h, rfl⟩
  | succ m _ ih =>
      obtain ⟨u, hu, hschema⟩ := ih
      cases hsql : statements[m]? with
      | none => exact ⟨u, by rw [catalogBefore_succ_of_none hsql, hu], hschema⟩
      | some sql =>
          rw [catalogBefore_succ hsql]
          obtain ⟨t', ht', hschema'⟩ := exists_get?_execute hu sql
          exact ⟨t', ht', hschema'.trans hschema⟩

/-! ## Labels -/

theorem labelledRows_succ {change : RowChange} (h : changeAt? statements key n = some change) :
    labelledRows statements key (n + 1) = change.relabel n (labelledRows statements key n) := by
  rw [labelledRows, h]
  rfl

theorem labelledRows_succ_of_none (h : changeAt? statements key n = none) :
    labelledRows statements key (n + 1) = labelledRows statements key n := by
  rw [labelledRows, h]
  rfl

/-- A row after a statement was added by it, or was there before and the statement is an update that
the row passed the test of, or left it. -/
theorem mem_labelledRows_succ {r : LabelledRow} (h : r ∈ labelledRows statements key (n + 1)) :
    (r.label = n ∧ InsertedAt statements key n r.row) ∨
      ∃ old ∈ labelledRows statements key n, old.label = r.label ∧
        (old.row = r.row ∨ UpdatedAt statements key r.label n) := by
  cases hchange : changeAt? statements key n with
  | none =>
      rw [labelledRows_succ_of_none hchange] at h
      exact .inr ⟨r, h, rfl, .inl rfl⟩
  | some change =>
      rw [labelledRows_succ hchange] at h
      cases change with
      | added row =>
          rcases List.mem_append.mp h with h | h
          · exact .inr ⟨r, h, rfl, .inl rfl⟩
          · rw [List.mem_singleton.mp h]
            exact .inl ⟨rfl, hchange⟩
      | assigned cells test =>
          obtain ⟨old, hold, rfl⟩ := List.mem_map.mp h
          refine .inr ⟨old, hold, rfl, ?_⟩
          by_cases hpass : test.all (matchesAt · old.row) = true
          · exact .inr ⟨cells, test, old.row, hchange, hold, hpass⟩
          · exact .inl (if_neg hpass).symm
      | removed test => exact .inr ⟨r, (List.mem_filter.mp h).1, rfl, .inl rfl⟩

/-- A row that is not deleted stays, under its label. -/
theorem exists_mem_labelledRows_succ {r : LabelledRow} (h : r ∈ labelledRows statements key n)
    (hkept : ¬ DeletedAt statements key r.label n) :
    ∃ row, ⟨r.label, row⟩ ∈ labelledRows statements key (n + 1) := by
  cases hchange : changeAt? statements key n with
  | none =>
      rw [labelledRows_succ_of_none hchange]
      exact ⟨r.row, h⟩
  | some change =>
      rw [labelledRows_succ hchange]
      cases change with
      | added row => exact ⟨r.row, List.mem_append_left _ h⟩
      | assigned cells test => exact ⟨_, List.mem_map_of_mem h⟩
      | removed test =>
          refine ⟨r.row, List.mem_filter.mpr ⟨h, ?_⟩⟩
          rw [Bool.not_eq_true', ← Bool.not_eq_true]
          exact fun hmatch => hkept ⟨test, r.row, hchange, h, hmatch⟩

theorem mem_labelledRows_of_insertedAt {row : Row} (h : InsertedAt statements key n row) :
    ⟨n, row⟩ ∈ labelledRows statements key (n + 1) := by
  rw [labelledRows_succ h]
  exact List.mem_append_right _ List.mem_cons_self

theorem label_lt {r : LabelledRow} (h : r ∈ labelledRows statements key n) : r.label < n := by
  induction n generalizing r with
  | zero => contradiction
  | succ n ih =>
      rcases mem_labelledRows_succ h with ⟨hlabel, -⟩ | ⟨old, hold, hlabel, -⟩
      · omega
      · have hlt := ih hold
        omega

/-- **Labels increase from the first row to the last.** -/
theorem pairwise_label (statements : List String) (key : String) (n : Nat) :
    (labelledRows statements key n).Pairwise fun r s => r.label < s.label := by
  induction n with
  | zero => exact .nil
  | succ n ih =>
      cases hchange : changeAt? statements key n with
      | none => rwa [labelledRows_succ_of_none hchange]
      | some change =>
          rw [labelledRows_succ hchange]
          cases change with
          | added row =>
              refine List.pairwise_append.mpr ⟨ih, List.pairwise_singleton _ _, ?_⟩
              intro r hr s hs
              rw [List.mem_singleton.mp hs]
              exact label_lt hr
          | assigned cells test => exact List.pairwise_map.mpr ih
          | removed test => exact ih.sublist List.filter_sublist

/-- No two rows have one label. -/
theorem eq_of_label_eq {r s : LabelledRow} (hr : r ∈ labelledRows statements key n)
    (hs : s ∈ labelledRows statements key n) (h : r.label = s.label) : r = s := by
  have hnodup : ((labelledRows statements key n).map LabelledRow.label).Nodup :=
    List.pairwise_map.mpr ((pairwise_label statements key n).imp Nat.ne_of_lt)
  exact List.inj_on_of_nodup_map hnodup hr hs h

/-- A row that is there after a statement was not deleted by it. -/
theorem not_deletedAt {r : LabelledRow} (h : r ∈ labelledRows statements key (n + 1)) :
    ¬ DeletedAt statements key r.label n := by
  rintro ⟨test, row, hchange, hrow, hmatch⟩
  rw [labelledRows_succ hchange] at h
  obtain ⟨hr, hkept⟩ := List.mem_filter.mp h
  rw [eq_of_label_eq hr hrow rfl] at hkept
  simp [hmatch] at hkept

/-! ## Which labels there are, and what stands under them -/

/-- **The labels are those of the rows that were inserted and not deleted since.** -/
theorem exists_mem_labelledRows_iff {label : Nat} :
    (∃ row, ⟨label, row⟩ ∈ labelledRows statements key n) ↔
      label < n ∧ (∃ row, InsertedAt statements key label row) ∧
        ∀ m < n, ¬ DeletedAt statements key label m := by
  induction n with
  | zero => simp [labelledRows]
  | succ n ih =>
      constructor
      · rintro ⟨row, h⟩
        have hlast : ¬ DeletedAt statements key label n := not_deletedAt h
        rcases mem_labelledRows_succ h with ⟨rfl, hinserted⟩ | ⟨old, hold, rfl, -⟩
        · refine ⟨Nat.lt_succ_self _, ⟨row, hinserted⟩, fun m hm => ?_⟩
          rcases Nat.lt_succ_iff_lt_or_eq.mp hm with hm | rfl
          · -- no row had the label yet
            rintro ⟨_, _, -, hrow, -⟩
            have hlt : label < m := label_lt hrow
            exact Nat.lt_asymm hm hlt
          · exact hlast
        · obtain ⟨hlt, hinserted, hkept⟩ := ih.mp ⟨old.row, hold⟩
          refine ⟨Nat.lt_succ_of_lt hlt, hinserted, fun m hm => ?_⟩
          rcases Nat.lt_succ_iff_lt_or_eq.mp hm with hm | rfl
          · exact hkept m hm
          · exact hlast
      · rintro ⟨hlt, ⟨row, hinserted⟩, hkept⟩
        rcases Nat.lt_succ_iff_lt_or_eq.mp hlt with hlt | rfl
        · obtain ⟨row', hrow'⟩ :=
            ih.mpr ⟨hlt, ⟨row, hinserted⟩, fun m hm => hkept m (Nat.lt_succ_of_lt hm)⟩
          exact exists_mem_labelledRows_succ hrow' (hkept n (Nat.lt_succ_self n))
        · exact ⟨row, mem_labelledRows_of_insertedAt hinserted⟩

/-- **A row that was never updated is the one that was inserted.** -/
theorem insertedAt_of_not_updatedAt {r : LabelledRow} (h : r ∈ labelledRows statements key n)
    (hkept : ∀ m < n, ¬ UpdatedAt statements key r.label m) :
    InsertedAt statements key r.label r.row := by
  induction n generalizing r with
  | zero => contradiction
  | succ n ih =>
      rcases mem_labelledRows_succ h with ⟨hlabel, hinserted⟩ | ⟨old, hold, hlabel, hrow | hrow⟩
      · rwa [hlabel]
      · rw [← hlabel, ← hrow]
        exact ih hold fun m hm => hlabel ▸ hkept m (Nat.lt_succ_of_lt hm)
      · exact absurd hrow (hkept n (Nat.lt_succ_self n))

/-! ## What a query shows -/

/-- The query for all rows of a table as they are. -/
def wholeTableQuery (table : String) : Query :=
  { distinct := false, items := [.star], source := ⟨table, none⟩, joins := [], filter := none
    groupBy := none, having := none, orderBy := none, limit := none, offset := none }

/-- The query answers the rows of the table in their order. -/
theorem execute_wholeTable {c : Catalog} (hc : c.Valid) {name : String} {t : Table}
    (hname : c.resolve? name = some key) (ht : c.tables.get? key = some t) {sql : String}
    (hparse : Statement.parse sql = .ok (.select (wholeTableQuery name))) :
    (execute c sql).1 = .ok (.rows (.ofTable t)) := by
  have hfind : c.find name = .ok t := by
    unfold Catalog.find Catalog.find?
    rw [hname, Option.bind_some, ht]
  have hplan : Plan.ofQuery c (wholeTableQuery name) = .ok (.scan t.schema.name) := by
    unfold Plan.ofQuery Plan.sourceStages wholeTableQuery
    simp only [hfind, ok_bind]
    rfl
  have hrun : ((Plan.scan t.schema.name).run c).1 = .ok (.rows (.ofTable t)) := by
    unfold Plan.run
    rw [hc.find_schema_name hfind]
    rfl
  rw [execute_select hparse]
  unfold Query.answer
  rw [hplan, ok_bind, hrun]
  rfl

/-- The statement at the position is an insertion into the table, and the run answers that it
succeeded. -/
def InsertedInto (statements : List String) (key : String) (n : Nat) : Prop :=
  ∃ sql table columns values, statements[n]? = some sql ∧
    Statement.parse sql = .ok (.insert table columns values) ∧
    (catalogBefore statements n).resolve? table = some key ∧
    (executeAll ∅ statements).1[n]? = some (.ok (.inserted 1))

theorem exists_insertedAt_iff :
    (∃ row, InsertedAt statements key n row) ↔ InsertedInto statements key n := by
  constructor
  · rintro ⟨row, h⟩
    obtain ⟨sql, hsql, h⟩ := Option.bind_eq_some_iff.mp h
    obtain ⟨table, columns, values, _, hparse, hkey, -, hanswer, -⟩ := rowChange?_eq_added_iff.mp h
    exact ⟨sql, table, columns, values, hsql, hparse, hkey, by rw [answer_eq hsql, hanswer]⟩
  · rintro ⟨sql, table, columns, values, hsql, hparse, hkey, hanswer⟩
    rw [answer_eq hsql] at hanswer
    have hanswer := Option.some.inj hanswer
    obtain ⟨-, name, t, row, hname, ht, hrow⟩ := exists_row_of_inserted hparse hanswer
    cases hkey.symm.trans hname
    refine ⟨row, Option.bind_eq_some_iff.mpr ⟨sql, hsql, ?_⟩⟩
    exact rowChange?_eq_added_iff.mpr ⟨table, columns, values, t, hparse, hkey, ht, hanswer, hrow⟩

/-- The row that an insertion added holds the casts of its values, column by column. -/
theorem forall₂_of_insertedAt {t : Table} {row : Row}
    (ht : (executeAll ∅ statements).2.tables.get? key = some t)
    (h : InsertedAt statements key n row) :
    ∃ sql table columns values, statements[n]? = some sql ∧
      Statement.parse sql = .ok (.insert table columns values) ∧ columns.Nodup ∧
      List.Forall₂ (fun column cell =>
        ∃ v, (column.name, v) ∈ columns.zip values ∧ column.type.cast v = .ok cell)
        t.schema.columns row := by
  have hlt := lt_length_of_changeAt? h
  obtain ⟨sql, hsql, h⟩ := Option.bind_eq_some_iff.mp h
  obtain ⟨table, columns, values, u, hparse, -, hu, -, hrow⟩ := rowChange?_eq_added_iff.mp h
  obtain ⟨-, -, -, hnodup, -⟩ := Statement.wellFormed_of_parse hparse
  -- the schema is still the one that the row was inserted under
  obtain ⟨u', hu', hschema⟩ := exists_get?_catalogBefore hlt.le hu
  rw [catalogBefore_length] at hu'
  cases hu'.symm.trans ht
  refine ⟨sql, table, columns, values, hsql, hparse, hnodup, ?_⟩
  rw [hschema]
  refine (forall₂_of_rowOfPairs hrow).imp fun column cell => ?_
  rintro ⟨v, hv, hcast⟩
  exact ⟨v, List.mem_reverse.mp hv, hcast⟩

/-- **Rows stay in the order of their insertion.**  In every table that a run of statements ends
with, the rows that a query for all of them shows have increasing labels; the labels are those of
the insertions into the table that succeeded and whose row no later deletion removed; and a row that
no update was about holds the casts of the values that it was inserted with. -/
theorem rows_in_order_of_insertion (statements : List String) {key : String} {t : Table}
    (ht : (executeAll ∅ statements).2.tables.get? key = some t) :
    let c := (executeAll ∅ statements).2
    let rows := labelledRows statements key statements.length
    rows.map LabelledRow.row = t.rows ∧
    (∀ name sql, c.resolve? name = some key →
      Statement.parse sql = .ok (.select (wholeTableQuery name)) →
      (execute c sql).1 = .ok (.rows ⟨t.schema.columnNames, rows.map LabelledRow.row⟩)) ∧
    (rows.map LabelledRow.label).Pairwise (· < ·) ∧
    (∀ label, label ∈ rows.map LabelledRow.label ↔
      InsertedInto statements key label ∧ ∀ n, ¬ DeletedAt statements key label n) ∧
    ∀ r ∈ rows, (∀ n, ¬ UpdatedAt statements key r.label n) →
      ∃ sql table columns values, statements[r.label]? = some sql ∧
        Statement.parse sql = .ok (.insert table columns values) ∧ columns.Nodup ∧
        List.Forall₂ (fun column cell =>
          ∃ v, (column.name, v) ∈ columns.zip values ∧ column.type.cast v = .ok cell)
          t.schema.columns r.row := by
  intro c rows
  have hrows : rows.map LabelledRow.row = t.rows := by
    rw [← rowsOf_catalogBefore, catalogBefore_length, Catalog.rowsOf_eq ht]
  refine ⟨hrows, ?_, List.pairwise_map.mpr (pairwise_label _ _ _), fun label => ?_,
    fun r hr hkept => ?_⟩
  · intro name sql hname hparse
    rw [execute_wholeTable (Catalog.valid_executeAll statements) hname ht hparse, hrows]
    rfl
  · have hlabels : label ∈ rows.map LabelledRow.label ↔ ∃ row, ⟨label, row⟩ ∈ rows := by
      rw [List.mem_map]
      constructor
      · rintro ⟨r, hr, rfl⟩
        exact ⟨r.row, hr⟩
      · rintro ⟨row, hrow⟩
        exact ⟨_, hrow, rfl⟩
    rw [hlabels, exists_mem_labelledRows_iff, exists_insertedAt_iff]
    constructor
    · rintro ⟨-, hinserted, hkept⟩
      refine ⟨hinserted, fun n => ?_⟩
      rintro ⟨test, row, hchange, hdeleted⟩
      exact hkept n (lt_length_of_changeAt? hchange) ⟨test, row, hchange, hdeleted⟩
    · rintro ⟨hinserted, hkept⟩
      obtain ⟨row, hrow⟩ := exists_insertedAt_iff.mpr hinserted
      exact ⟨lt_length_of_changeAt? hrow, hinserted, fun n _ => hkept n⟩
  · exact forall₂_of_insertedAt ht (insertedAt_of_not_updatedAt hr fun n _ => hkept n)

/-- Three insertions that succeed and one that does not, the first row changed and the second
removed. -/
theorem rows_in_order_of_insertion_twoLeft :
    let statements := ["CREATE TABLE t (a INT, b TEXT)", "INSERT INTO t (a, b) VALUES (1, 'x')",
      "INSERT INTO T (b, a) VALUES ('y', 2)", "INSERT INTO t (a) VALUES (3)",
      "INSERT INTO t (b, a) VALUES (5, '3')", "UPDATE t SET a = 9 WHERE b = 'x'",
      "DELETE FROM t WHERE a = 2"]
    let c := (executeAll ∅ statements).2
    c.rowsOf "t" = [[.integer 9, .text "x"], [.integer 3, .text "5"]] ∧
      (execute c "SELECT * FROM t").1 =
        .ok (.rows ⟨["a", "b"], [[.integer 9, .text "x"], [.integer 3, .text "5"]]⟩) ∧
      (labelledRows statements "t" 7).map LabelledRow.label = [1, 4] ∧
      InsertedInto statements "t" 4 ∧ ∀ n, ¬ DeletedAt statements "t" 4 n := by
  intro statements c
  let t : Table := ⟨⟨"t", [⟨"a", .integer⟩, ⟨"b", .text⟩], none⟩,
    [[.integer 9, .text "x"], [.integer 3, .text "5"]]⟩
  have hc : (executeAll ∅ statements).2 = ⟨.ofList [("t", t)]⟩ := by decide +kernel
  have ht : (executeAll ∅ statements).2.tables.get? "t" = some t := by rw [hc]; decide +kernel
  have hlabelled : labelledRows statements "t" statements.length =
      [⟨1, [.integer 9, .text "x"]⟩, ⟨4, [.integer 3, .text "5"]⟩] := by decide +kernel
  have hparse : Statement.parse "SELECT * FROM t" = .ok (.select (wholeTableQuery "t")) := by
    decide +kernel
  have hname : (executeAll ∅ statements).2.resolve? "t" = some "t" := by rw [hc]; decide +kernel
  obtain ⟨-, hselect, -, hlabels, -⟩ := rows_in_order_of_insertion statements ht
  have hshown := hselect "t" _ hname hparse
  have hlast := (hlabels 4).mp (by rw [hlabelled]; decide)
  rw [hlabelled] at hshown
  exact ⟨Catalog.rowsOf_eq ht, hshown, congrArg (List.map LabelledRow.label) hlabelled, hlast⟩

end Session

end RelStore
