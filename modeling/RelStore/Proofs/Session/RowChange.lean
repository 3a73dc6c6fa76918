import RelStore.Proofs.Session.Atomicity

/-!
# What a text does to the rows of a table

A text that is carried out does one of three things to the rows of a table, or nothing
(`rows_execute`).  It does nothing to them if it fails, and if it is a query, a declaration or a
change of another table.

| statement | what it does |
| --- | --- |
| `insert` | adds the row of its cast values at the end |
| `update` | puts its cast values into the rows that pass its test |
| `delete` | removes the rows that pass its test |
-/

namespace RelStore

/-- A change of the rows of a table. -/
inductive RowChange where
  /-- Adds the row at the end. -/
  | added (row : Row)
  /-- Puts the cells into the rows that pass the test, into all if there is none. -/
  | assigned (cells : List (Nat × Value)) (test : Option (Nat × Value))
  /-- Removes the rows that pass the test. -/
  | removed (test : Nat × Value)
deriving DecidableEq, Repr

/-- The rows after the change. -/
def RowChange.apply : RowChange → List Row → List Row
  | added row, rows => rows ++ [row]
  | assigned cells test, rows => Table.updatedRows cells test rows
  | removed test, rows => rows.filter (!matchesAt test ·)

/-- What the statement does to the rows of the table that it changes, if it succeeds. -/
def Statement.rowChange? (t : Table) : Statement → Option RowChange
  | insert _ columns values =>
    (rowOfPairs t.schema.columns (columns.zip values).reverse).toOption.map .added
  | update _ assignments test => do
    let cells ← (t.bindAssignments assignments).toOption
    let test ← (test.mapM t.bindTest).toOption
    return .assigned cells test
  | delete _ (some test) => (t.bindTest test).toOption.map .removed
  | _ => none

/-- The rows of the table under the name; none if there is no table. -/
def Catalog.rowsOf (c : Catalog) (key : String) : List Row :=
  (c.tables.get? key).elim [] Table.rows

theorem Catalog.rowsOf_eq {c : Catalog} {key : String} {t : Table}
    (h : c.tables.get? key = some t) : c.rowsOf key = t.rows := by
  unfold rowsOf
  rw [h]
  rfl

/-- Putting a table under a name leaves the rows of the tables under the other names. -/
theorem Catalog.rowsOf_insert (c : Catalog) (name : String) (t : Table) (key : String) :
    (⟨c.tables.insert name t⟩ : Catalog).rowsOf key =
      if name = key then t.rows else c.rowsOf key := by
  unfold rowsOf
  rw [NameMap.get?_insert]
  by_cases h : name = key
  · rw [if_pos h, if_pos h.symm]
    rfl
  · rw [if_neg h, if_neg (Ne.symm h)]

namespace Session

/-- What carrying out the text does to the rows of the table under the name. -/
def rowChange? (c : Catalog) (key sql : String) : Option RowChange := do
  let _ ← (execute c sql).1.toOption
  let s ← (Statement.parse sql).toOption
  if c.changed? s = some key then (c.tables.get? key).bind s.rowChange? else none

variable {c : Catalog} {key sql : String} {s : Statement}

/-- A text that fails does nothing to any rows. -/
theorem rowChange?_of_error {e : Error} (h : (execute c sql).1 = .error e) :
    rowChange? c key sql = none := by
  unfold rowChange?
  rw [h]
  rfl

theorem rowChange?_of_ok {o : Outcome} (h : (execute c sql).1 = .ok o)
    (hparse : Statement.parse sql = .ok s) :
    rowChange? c key sql =
      if c.changed? s = some key then (c.tables.get? key).bind s.rowChange? else none := by
  unfold rowChange?
  rw [h, hparse]
  rfl

/-- A text that is no change of rows does nothing to any. -/
theorem rowChange?_of_changedTable?_eq_none {o : Outcome} (h : (execute c sql).1 = .ok o)
    (hparse : Statement.parse sql = .ok s) (hnone : s.changedTable? = none) :
    rowChange? c key sql = none := by
  rw [rowChange?_of_ok h hparse]
  unfold Catalog.changed?
  rw [hnone]
  exact if_neg nofun

/-- The change of rows made by a statement that succeeds, seen from any table. -/
theorem rowsOf_insert_eq_apply {name table : String} {o : Outcome} {t t' : Table}
    {change : RowChange} (h : (execute c sql).1 = .ok o) (hparse : Statement.parse sql = .ok s)
    (htable : s.changedTable? = some table) (hname : c.resolve? table = some name)
    (hget : c.tables.get? name = some t) (hchange : s.rowChange? t = some change)
    (hrows : t'.rows = change.apply t.rows) :
    (⟨c.tables.insert name t'⟩ : Catalog).rowsOf key =
      (rowChange? c key sql).elim (c.rowsOf key) (·.apply (c.rowsOf key)) := by
  have hchanged : c.changed? s = some name := by
    unfold Catalog.changed?
    rw [htable, Option.bind_some, hname]
  rw [rowChange?_of_ok h hparse, hchanged, Catalog.rowsOf_insert]
  by_cases hkey : name = key
  · subst hkey
    rw [if_pos rfl, if_pos rfl, hget, Option.bind_some, hchange, Catalog.rowsOf_eq hget, hrows]
    rfl
  · rw [if_neg hkey, if_neg fun heq => hkey (Option.some.inj heq)]
    rfl

/-- **Carrying out a text changes the rows of a table as `rowChange?` says.** -/
theorem rows_execute (c : Catalog) (key sql : String) :
    (execute c sql).2.rowsOf key =
      (rowChange? c key sql).elim (c.rowsOf key) (·.apply (c.rowsOf key)) := by
  have hexecution := execution c sql
  generalize hanswer : (execute c sql).1 = answer at hexecution
  generalize (execute c sql).2 = after at hexecution ⊢
  cases hexecution with
  | failed e =>
      rw [rowChange?_of_error hanswer]
      rfl
  | selected hparse =>
      rw [rowChange?_of_changedTable?_eq_none hanswer hparse rfl]
      rfl
  | created hparse _ _ hfree =>
      rw [rowChange?_of_changedTable?_eq_none hanswer hparse rfl, Catalog.rowsOf_insert]
      split
      next heq =>
        -- the name was free, so there were no rows under it
        rw [← heq]
        unfold Catalog.rowsOf
        rw [hfree]
        rfl
      next => rfl
  | @inserted table name columns values t _ hparse hkey htable hinsert =>
      obtain ⟨-, row, hrow, -, rfl⟩ := Table.insert_eq_ok hinsert
      have hchange : (Statement.insert table columns values).rowChange? t = some (.added row) := by
        simp only [Statement.rowChange?, hrow]
        rfl
      exact rowsOf_insert_eq_apply hanswer hparse rfl hkey htable hchange rfl
  | @updated table name assignments given count t _ hparse hkey htable hupdate =>
      obtain ⟨cells, test, hcells, htest, -, -, rfl⟩ := Table.update_eq_ok hupdate
      have hchange : (Statement.update table assignments given).rowChange? t =
          some (.assigned cells test) := by
        simp only [Statement.rowChange?, hcells, htest]
        rfl
      exact rowsOf_insert_eq_apply hanswer hparse rfl hkey htable hchange rfl
  | @deleted table name given count t _ hparse hkey htable hdelete =>
      obtain ⟨test, htest, -, rfl⟩ := Table.delete_eq_ok hdelete
      have hchange : (Statement.delete table (some given)).rowChange? t =
          some (.removed test) := by
        simp only [Statement.rowChange?, htest]
        rfl
      exact rowsOf_insert_eq_apply hanswer hparse rfl hkey htable hchange rfl

/-- An insertion that succeeds answers that it added one row, and has a row to add. -/
theorem exists_row_of_inserted {table : String} {columns : List String} {values : List Value}
    {o : Outcome} (hparse : Statement.parse sql = .ok (.insert table columns values))
    (h : (execute c sql).1 = .ok o) :
    o = .inserted 1 ∧ ∃ name t row, c.resolve? table = some name ∧ c.tables.get? name = some t ∧
      rowOfPairs t.schema.columns (columns.zip values).reverse = .ok row := by
  have hexecution := execution c sql
  rw [h] at hexecution
  generalize (execute c sql).2 = after at hexecution
  cases hexecution with
  | selected hother => cases hparse.symm.trans hother
  | created hother _ _ _ => cases hparse.symm.trans hother
  | inserted hother hkey htable hinsert =>
      cases hparse.symm.trans hother
      obtain ⟨-, row, hrow, -⟩ := Table.insert_eq_ok hinsert
      exact ⟨rfl, _, _, row, hkey, htable, hrow⟩
  | updated hother _ _ _ => cases hparse.symm.trans hother
  | deleted hother _ _ _ => cases hparse.symm.trans hother

/-- **What adds a row is an insertion into the table that succeeds**, and the row is that of its
values. -/
theorem rowChange?_eq_added_iff {row : Row} :
    rowChange? c key sql = some (.added row) ↔
      ∃ table columns values t, Statement.parse sql = .ok (.insert table columns values) ∧
        c.resolve? table = some key ∧ c.tables.get? key = some t ∧
        (execute c sql).1 = .ok (.inserted 1) ∧
        rowOfPairs t.schema.columns (columns.zip values).reverse = .ok row := by
  constructor
  · intro h
    obtain ⟨o, ho, h⟩ := Option.bind_eq_some_iff.mp h
    obtain ⟨s, hparse, h⟩ := Option.bind_eq_some_iff.mp h
    rw [toOption_eq_some_iff] at ho hparse
    split at h
    next hchanged =>
      obtain ⟨table, htable, hkey⟩ := Option.bind_eq_some_iff.mp hchanged
      obtain ⟨t, ht, hrow⟩ := Option.bind_eq_some_iff.mp h
      cases s with
      | insert name columns values =>
          cases htable
          obtain ⟨rfl, -⟩ := exists_row_of_inserted hparse ho
          obtain ⟨_, hrow, heq⟩ := Option.map_eq_some_iff.mp hrow
          cases heq
          exact ⟨_, columns, values, t, hparse, hkey, ht, ho, toOption_eq_some_iff.mp hrow⟩
      | update name assignments test =>
          obtain ⟨_, -, hrow⟩ := Option.bind_eq_some_iff.mp hrow
          obtain ⟨_, -, hrow⟩ := Option.bind_eq_some_iff.mp hrow
          cases hrow
      | delete name test =>
          cases test with
          | none => cases hrow
          | some test =>
              obtain ⟨_, -, heq⟩ := Option.map_eq_some_iff.mp hrow
              cases heq
      | createTable name columns primaryKey => cases htable
      | select q => cases htable
    next => contradiction
  · rintro ⟨table, columns, values, t, hparse, hkey, ht, hanswer, hrow⟩
    have hchanged : c.changed? (.insert table columns values) = some key := hkey
    rw [rowChange?_of_ok hanswer hparse, if_pos hchanged, ht, Option.bind_some]
    simp only [Statement.rowChange?, hrow]
    rfl

/-- A table that is there stays there, under its schema. -/
theorem exists_get?_execute {t : Table} (h : c.tables.get? key = some t) (sql : String) :
    ∃ t', (execute c sql).2.tables.get? key = some t' ∧ t'.schema = t.schema := by
  have hput : ∀ {name : String} {old new : Table}, c.tables.get? name = some old →
      new.schema = old.schema →
      ∃ t', (c.tables.insert name new).get? key = some t' ∧ t'.schema = t.schema := by
    intro name old new hold hschema
    rw [NameMap.get?_insert]
    split
    next heq =>
      rw [heq] at h
      cases h.symm.trans hold
      exact ⟨new, rfl, hschema⟩
    next => exact ⟨t, h, rfl⟩
  have hexecution := execution c sql
  generalize (execute c sql).1 = answer at hexecution
  generalize (execute c sql).2 = after at hexecution ⊢
  cases hexecution with
  | failed _ => exact ⟨t, h, rfl⟩
  | selected _ => exact ⟨t, h, rfl⟩
  | @created name _ _ _ _ _ _ hfree =>
      have hne : key ≠ name := by
        rintro rfl
        cases hfree.symm.trans h
      exact ⟨t, by rw [NameMap.get?_insert_of_ne _ _ hne, h], rfl⟩
  | inserted _ _ htable hinsert => exact hput htable (Table.schema_insert hinsert)
  | updated _ _ htable hupdate => exact hput htable (Table.schema_update hupdate)
  | deleted _ _ htable hdelete => exact hput htable (Table.schema_delete hdelete)

end Session

end RelStore
