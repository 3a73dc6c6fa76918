import RelStore.Proofs.NameMap
import RelStore.Proofs.Session.Execution

/-!
# What a statement leaves alone

A statement that fails, and a query in any case, leaves the catalog as it is.  A statement that
succeeds changes at most one table:

| statement | the table | what happens to it |
| --- | --- | --- |
| `createTable` | the one declared, whose name was free | it is there, without rows |
| `insert`, `update`, `delete` | the one the name is resolved to | it keeps its schema |

So the statements of a script that fail could as well be left out, each of them or only some.
-/

namespace RelStore

/-- The table that the statement changes the rows of. -/
def Statement.changedTable? : Statement → Option String
  | createTable _ _ _ => none
  | insert table _ _ => some table
  | update table _ _ => some table
  | delete table _ => some table
  | select _ => none

/-- The table that the statement changes the rows of, by the name it is registered under. -/
def Catalog.changed? (c : Catalog) (s : Statement) : Option String :=
  s.changedTable?.bind c.resolve?

/-! ## Changing one table -/

/-- The second catalog has the tables of the first, all with their schemas, and all but the one
under the name with their rows. -/
structure Catalog.AgreeBut (name : String) (c c' : Catalog) : Prop where
  tableNames : c'.tableNames = c.tableNames
  schema : ∀ other, (c'.tables.get? other).map Table.schema = (c.tables.get? other).map Table.schema
  table : ∀ other, other ≠ name → c'.tables.get? other = c.tables.get? other

/-- A table put in place of one of its schema leaves all but its rows. -/
theorem Catalog.agreeBut_insert {c : Catalog} {name : String} {t t' : Table}
    (ht : c.tables.get? name = some t) (hschema : t'.schema = t.schema) :
    c.AgreeBut name ⟨c.tables.insert name t'⟩ := by
  have hschemas : ∀ other, ((c.tables.insert name t').get? other).map Table.schema =
      (c.tables.get? other).map Table.schema := by
    intro other
    rw [NameMap.get?_insert]
    split
    next heq => rw [heq, ht, Option.map_some, Option.map_some, hschema]
    next => rfl
  refine ⟨?_, hschemas, fun other hne => NameMap.get?_insert_of_ne _ _ hne⟩
  refine NameMap.names_eq_of_isSome_eq fun other => ?_
  rw [← Option.isSome_map, hschemas, Option.isSome_map]

namespace Execution

variable {c c' : Catalog} {sql : String} {answer : Except Error Outcome}

theorem eq_of_error {e : Error} (h : Execution c sql (.error e) c') : c' = c := by
  cases h
  rfl

theorem eq_of_select (h : Execution c sql answer c') {q : Query}
    (hparse : Statement.parse sql = .ok (.select q)) : c' = c := by
  cases h with
  | failed _ => rfl
  | selected _ => rfl
  | created h _ _ _ => cases hparse.symm.trans h
  | inserted h _ _ _ => cases hparse.symm.trans h
  | updated h _ _ _ => cases hparse.symm.trans h
  | deleted h _ _ _ => cases hparse.symm.trans h

/-- A change that succeeds leaves all but the rows of the table its name is resolved to. -/
theorem agreeBut {o : Outcome} (h : Execution c sql (.ok o) c') {s : Statement} {table : String}
    (hparse : Statement.parse sql = .ok s) (htable : s.changedTable? = some table) :
    ∃ key, c.resolve? table = some key ∧ c.AgreeBut key c' := by
  cases h with
  | selected h =>
      cases hparse.symm.trans h
      cases htable
  | created h _ _ _ =>
      cases hparse.symm.trans h
      cases htable
  | inserted h hkey ht hinsert =>
      cases hparse.symm.trans h
      cases htable
      exact ⟨_, hkey, Catalog.agreeBut_insert ht (Table.schema_insert hinsert)⟩
  | updated h hkey ht hupdate =>
      cases hparse.symm.trans h
      cases htable
      exact ⟨_, hkey, Catalog.agreeBut_insert ht (Table.schema_update hupdate)⟩
  | deleted h hkey ht hdelete =>
      cases hparse.symm.trans h
      cases htable
      exact ⟨_, hkey, Catalog.agreeBut_insert ht (Table.schema_delete hdelete)⟩

/-- A declaration that succeeds adds a table without rows under a name that was free. -/
theorem of_createTable {o : Outcome} (h : Execution c sql (.ok o) c') {name : String}
    {columns : List ColumnDefinition} {key : Option String}
    (hparse : Statement.parse sql = .ok (.createTable name columns key)) :
    c.tables.get? name = none ∧
      (∃ schema, schema.name = name ∧ c'.tables.get? name = some (.empty schema)) ∧
      ∀ other, other ≠ name → c'.tables.get? other = c.tables.get? other := by
  cases h with
  | selected h => cases hparse.symm.trans h
  | created h _ _ hfree =>
      cases hparse.symm.trans h
      exact ⟨hfree, ⟨_, rfl, NameMap.get?_insert_self _ _ _⟩,
        fun other hne => NameMap.get?_insert_of_ne _ _ hne⟩
  | inserted h _ _ _ => cases hparse.symm.trans h
  | updated h _ _ _ => cases hparse.symm.trans h
  | deleted h _ _ _ => cases hparse.symm.trans h

end Execution

/-! ## Leaving out what fails -/

namespace Session

/-- Statements with their answers, some of those that fail left out, are answered as before and end
with the same catalog. -/
theorem executeAll_kept (c : Catalog) (statements : List String)
    {kept : List (String × Except Error Outcome)}
    (hsublist : kept.Sublist (statements.zip (executeAll c statements).1))
    (hkept : kept.filter (·.2.isOk) =
      (statements.zip (executeAll c statements).1).filter (·.2.isOk)) :
    executeAll c (kept.map (·.1)) = (kept.map (·.2), (executeAll c statements).2) := by
  induction statements generalizing c kept with
  | nil =>
      rw [List.zip_nil_left, List.sublist_nil] at hsublist
      rw [hsublist]
      rfl
  | cons sql rest ih =>
      simp only [executeAll, List.zip_cons_cons] at hsublist hkept ⊢
      cases hsublist with
      | cons _ hsublist =>
          -- the first statement is left out, so it failed
          cases hanswer : (execute c sql).1 with
          | ok o =>
              -- an answer that succeeds is not missing among those kept
              have hle := (hsublist.filter (·.2.isOk)).length_le
              rw [hkept, hanswer, List.filter_cons_of_pos rfl, List.length_cons] at hle
              omega
          | error e =>
              have hsame : (execute c sql).2 = c :=
                Execution.eq_of_error (hanswer ▸ execution c sql)
              rw [hanswer, List.filter_cons_of_neg (by simp [Except.isOk, Except.toBool])] at hkept
              rw [hsame] at hsublist hkept ⊢
              exact ih c hsublist hkept
      | cons_cons _ hsublist =>
          -- the first statement is kept, so the rest goes on from the same catalog
          rw [List.filter_cons, List.filter_cons] at hkept
          have hrest : executeAll _ _ = (_, _) := ih _ hsublist (by
            split at hkept
            · exact (List.cons.inj hkept).2
            · exact hkept)
          simp only [List.map_cons, executeAll, hrest]

/-- **A statement that fails changes nothing, one that succeeds at most one table.**  A query
changes nothing either way.  Leaving out statements of a script that fail, all or only some, keeps
the answers to the others and the catalog at the end. -/
theorem execute_changes_one_table (c : Catalog) :
    (∀ sql,
      (∀ e, (execute c sql).1 = .error e → (execute c sql).2 = c) ∧
      (∀ q, Statement.parse sql = .ok (.select q) → (execute c sql).2 = c) ∧
      (∀ s table o, Statement.parse sql = .ok s → s.changedTable? = some table →
        (execute c sql).1 = .ok o →
          ∃ key, c.resolve? table = some key ∧ c.AgreeBut key (execute c sql).2) ∧
      (∀ name columns key o, Statement.parse sql = .ok (.createTable name columns key) →
        (execute c sql).1 = .ok o →
          c.tables.get? name = none ∧
          (∃ schema, schema.name = name ∧
            (execute c sql).2.tables.get? name = some (.empty schema)) ∧
          ∀ other, other ≠ name →
            (execute c sql).2.tables.get? other = c.tables.get? other)) ∧
    ∀ statements (kept : List (String × Except Error Outcome)),
      kept.Sublist (statements.zip (executeAll c statements).1) →
      kept.filter (·.2.isOk) = (statements.zip (executeAll c statements).1).filter (·.2.isOk) →
      executeAll c (kept.map (·.1)) = (kept.map (·.2), (executeAll c statements).2) := by
  refine ⟨fun sql => ?_, fun statements kept => executeAll_kept c statements⟩
  have h := execution c sql
  refine ⟨?_, ?_, ?_, ?_⟩
  · intro e hanswer
    rw [hanswer] at h
    exact h.eq_of_error
  · intro q hparse
    exact h.eq_of_select hparse
  · intro s table o hparse htable hanswer
    rw [hanswer] at h
    exact h.agreeBut hparse htable
  · intro name columns key o hparse hanswer
    rw [hanswer] at h
    exact h.of_createTable hparse

/-- A script whose second statement fails half way through its row, and is left out. -/
theorem execute_changes_one_table_script :
    let script := ["CREATE TABLE t (a INT, b INT)", "INSERT INTO t (a, b) VALUES (1, 'x')",
      "SELECT a FROM t"]
    let kept : List (String × Except Error Outcome) :=
      [("CREATE TABLE t (a INT, b INT)", .ok (.created "t")),
        ("SELECT a FROM t", .ok (.rows ⟨["a"], []⟩))]
    executeAll ∅ (kept.map (·.1)) = (kept.map (·.2), (executeAll ∅ script).2) := by
  intro script kept
  exact (execute_changes_one_table ∅).2 script kept (by decide +kernel) (by decide +kernel)

end Session

end RelStore
