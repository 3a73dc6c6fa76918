import RelStore.Proofs.Plan.Tables
import RelStore.Proofs.Session.Atomicity

/-!
# Statements on different tables

Two statements of which neither changes a table that the other names may be carried out in either
order (`execute_comm`).  The names are resolved in the catalog before both.

Why the first does not disturb the second: the table that it puts back stands under a name that was
there, so every name is still resolved as before, and the tables that the second names are the same
as before (`alikeOn_put`).  On catalogs alike in this sense a statement gives the same answer and
puts the same table under the same name (`execute_congr`).  Two tables put under different names may
be put in either order.
-/

namespace RelStore

namespace Statement

/-- The names of the tables that the statement reads, changes or declares. -/
def tableNames : Statement → List String
  | createTable name _ _ => [name]
  | insert table _ _ => [table]
  | update table _ _ => [table]
  | delete table _ => [table]
  | select q => q.tableNames

/-- Whether the statement declares a table. -/
def declares : Statement → Bool
  | createTable _ _ _ => true
  | _ => false

theorem changedTable?_mem_tableNames {s : Statement} {table : String}
    (h : s.changedTable? = some table) : table ∈ s.tableNames := by
  cases s <;> cases h <;> exact List.mem_cons_self

end Statement

namespace Catalog

/-- The tables that the statement reads or changes, by the names they are registered under. -/
def used (c : Catalog) (s : Statement) : List String :=
  s.tableNames.filterMap c.resolve?

/-- Neither statement declares a table, or changes one that the other reads or changes. -/
structure Apart (c : Catalog) (a b : Statement) : Prop where
  declares : a.declares = false ∧ b.declares = false
  changed_left : ∀ key ∈ c.changed? a, key ∉ c.used b
  changed_right : ∀ key ∈ c.changed? b, key ∉ c.used a

/-- The catalog with the table put under the name, if there is one to put. -/
def put (c : Catalog) : Option (String × Table) → Catalog
  | none => c
  | some (key, t) => ⟨c.tables.insert key t⟩

theorem put_comm (c : Catalog) {p q : Option (String × Table)}
    (h : ∀ entry ∈ p, ∀ other ∈ q, entry.1 ≠ other.1) : (c.put p).put q = (c.put q).put p := by
  cases p with
  | none => rfl
  | some entry =>
      cases q with
      | none => rfl
      | some other => exact congrArg Catalog.mk (c.tables.insert_comm (h _ rfl _ rfl) _ _)

/-! ## Catalogs alike -/

/-- The second catalog resolves names as the first does, and has the same tables under the given
ones. -/
structure AlikeOn (names : List String) (c c' : Catalog) : Prop where
  resolve?_eq : ∀ name, c'.resolve? name = c.resolve? name
  find_eq : ∀ name ∈ names, c'.find name = c.find name

/-- Replacing a table leaves what is found under the other names. -/
theorem find_insert_of_ne {c : Catalog} {name key : String} {t t' : Table}
    (h : c.tables.get? key = some t) (hne : c.resolve? name ≠ some key) :
    (⟨c.tables.insert key t'⟩ : Catalog).find name = c.find name := by
  unfold find find?
  rw [resolve?_insert h]
  cases hname : c.resolve? name with
  | none => rfl
  | some other =>
      have hother : other ≠ key := fun heq => hne (heq ▸ hname)
      rw [Option.bind_some, Option.bind_some, NameMap.get?_insert_of_ne _ _ hother]

/-- A table put in place of another leaves the catalog as it is for a statement that does not use
it. -/
theorem alikeOn_put {c : Catalog} {put : Option (String × Table)} {s : Statement}
    (hput : ∀ entry ∈ put, (c.tables.get? entry.1).isSome = true)
    (hunused : ∀ entry ∈ put, entry.1 ∉ c.used s) : c.AlikeOn s.tableNames (c.put put) := by
  cases put with
  | none => exact ⟨fun _ => rfl, fun _ _ => rfl⟩
  | some entry =>
      obtain ⟨t, ht⟩ := Option.isSome_iff_exists.mp (hput entry rfl)
      refine ⟨resolve?_insert ht, fun name hname => find_insert_of_ne ht fun hkey => ?_⟩
      exact hunused entry rfl (List.mem_filterMap.mpr ⟨name, hname, hkey⟩)

end Catalog

/-! ## One statement on catalogs alike -/

section Alike

variable {c c' : Catalog}

/-- What is committed is an answer and a table that is put in place of another. -/
theorem commit_change_congr {table : String} (hresolve : c'.resolve? table = c.resolve? table)
    (hfind : c'.find table = c.find table) (f : Table → Except Error (Outcome × Table)) :
    ∃ answer put, Plan.commit c (c.change table f) = (answer, c.put put) ∧
      Plan.commit c' (c'.change table f) = (answer, c'.put put) ∧
      ∀ entry ∈ put, c.resolve? table = some entry.1 ∧
        (c.tables.get? entry.1).isSome = true := by
  unfold Catalog.change
  rw [hresolve, hfind]
  cases ht : c.find table with
  | error e => exact ⟨.error e, none, rfl, rfl, nofun⟩
  | ok t =>
      obtain ⟨key, hkey, hget⟩ := Catalog.find_eq_ok ht
      cases hf : f t with
      | error e =>
          refine ⟨.error e, none, ?_, ?_, nofun⟩ <;>
          · rw [ok_bind, hf]
            rfl
      | ok result =>
          refine ⟨.ok result.1, some (key, result.2), ?_, ?_, ?_⟩
          · rw [ok_bind, hf, hkey]
            rfl
          · rw [ok_bind, hf, hkey]
            rfl
          · rintro entry ⟨⟩
            exact ⟨hkey, by rw [hget]; rfl⟩

/-- A statement that changes rows fails on every catalog, or applies one function to the table. -/
theorem Session.execute_eq_commit {sql table : String} {s : Statement}
    (hparse : Statement.parse sql = .ok s) (htable : s.changedTable? = some table) :
    (∃ e, ∀ c, execute c sql = (.error e, c)) ∨
      ∃ f, ∀ c : Catalog, execute c sql = Plan.commit c (c.change table f) := by
  unfold execute plan
  rw [hparse]
  cases s with
  | createTable name columns key => cases htable
  | insert table columns values =>
      cases htable
      exact .inr ⟨_, fun c => rfl⟩
  | update table assignments test =>
      cases htable
      exact .inr ⟨_, fun c => rfl⟩
  | delete table test =>
      cases htable
      cases test with
      | none => exact .inl ⟨_, fun c => rfl⟩
      | some test => exact .inr ⟨_, fun c => rfl⟩
  | select q => cases htable

/-- **On catalogs alike in what it names, a statement answers the same and makes the same change.**
The table that it puts back, if any, is the one that it changes. -/
theorem Session.execute_congr (hc : c.Valid) (hc' : c'.Valid) {sql : String} {s : Statement}
    (hparse : Statement.parse sql = .ok s) (hdeclares : s.declares = false)
    (halike : c.AlikeOn s.tableNames c') :
    ∃ answer put, execute c sql = (answer, c.put put) ∧ execute c' sql = (answer, c'.put put) ∧
      ∀ entry ∈ put, c.changed? s = some entry.1 ∧ (c.tables.get? entry.1).isSome = true := by
  cases htable : s.changedTable? with
  | some table =>
      rcases execute_eq_commit hparse htable with ⟨e, hfail⟩ | ⟨f, hchange⟩
      · exact ⟨.error e, none, hfail c, hfail c', nofun⟩
      · rw [hchange, hchange]
        have hname := Statement.changedTable?_mem_tableNames htable
        unfold Catalog.changed?
        rw [htable, Option.bind_some]
        exact commit_change_congr (halike.resolve?_eq table) (halike.find_eq table hname) f
  | none =>
      cases s with
      | select q =>
          refine ⟨(q.answer c).map .rows, none, execute_select hparse, ?_, nofun⟩
          rw [execute_select hparse, Query.answer_congr hc hc' halike.find_eq]
          rfl
      | createTable name columns key => cases hdeclares
      | _ => cases htable

end Alike

namespace Session

/-- **Statements on different tables commute.**  On the catalog that a run of statements ends with,
two statements of which neither changes a table that the other reads or changes are answered in
either order as each is alone, and both orders end with one catalog. -/
theorem execute_comm {statements : List String} {first second : String} {a b : Statement}
    (ha : Statement.parse first = .ok a) (hb : Statement.parse second = .ok b)
    (hapart : (executeAll ∅ statements).2.Apart a b) :
    let c := (executeAll ∅ statements).2
    ∃ after,
      executeAll c [first, second] = ([(execute c first).1, (execute c second).1], after) ∧
      executeAll c [second, first] = ([(execute c second).1, (execute c first).1], after) := by
  intro c
  have hc : c.Valid := Catalog.valid_executeAll statements
  have hvalid : ∀ sql, (execute c sql).2.Valid := fun sql => hc.execution (execution c sql)
  have hself : ∀ names, c.AlikeOn names c := fun _ => ⟨fun _ => rfl, fun _ _ => rfl⟩
  -- the second statement after the first
  obtain ⟨answerA, p, hfirst, -, hp⟩ :=
    execute_congr hc hc ha hapart.declares.1 (hself a.tableNames)
  have hafterFirst : (c.put p).Valid := by
    have h := hvalid first
    rwa [hfirst] at h
  obtain ⟨answerB, q, hsecond, hsecond', hq⟩ :=
    execute_congr hc hafterFirst hb hapart.declares.2
      (Catalog.alikeOn_put (fun entry hentry => (hp entry hentry).2)
        fun entry hentry => hapart.changed_left _ (hp entry hentry).1)
  -- the first statement after the second
  have hafterSecond : (c.put q).Valid := by
    have h := hvalid second
    rwa [hsecond] at h
  obtain ⟨answerA', p', hagain, hfirst', hp'⟩ :=
    execute_congr hc hafterSecond ha hapart.declares.1
      (Catalog.alikeOn_put (fun entry hentry => (hq entry hentry).2)
        fun entry hentry => hapart.changed_right _ (hq entry hentry).1)
  obtain ⟨rfl, hputs⟩ := Prod.mk.inj (hfirst.symm.trans hagain)
  rw [hputs] at hfirst hsecond'
  have hne : ∀ entry ∈ p', ∀ other ∈ q, entry.1 ≠ other.1 := by
    intro entry hentry other hother heq
    refine hapart.changed_left _ (hp' entry hentry).1 ?_
    obtain ⟨table, htable, hkey⟩ := Option.bind_eq_some_iff.mp (hq other hother).1
    exact List.mem_filterMap.mpr
      ⟨table, Statement.changedTable?_mem_tableNames htable, heq ▸ hkey⟩
  refine ⟨(c.put p').put q, ?_, ?_⟩
  · simp only [executeAll, hfirst, hsecond, hsecond']
  · simp only [executeAll, hfirst, hsecond, hfirst', Catalog.put_comm c hne]

/-- Changes of two tables, one of them named in upper case. -/
theorem execute_comm_twoTables :
    let statements := ["CREATE TABLE t (a INT PRIMARY KEY)", "CREATE TABLE u (b TEXT)",
      "INSERT INTO t (a) VALUES (1)", "INSERT INTO u (b) VALUES ('x')"]
    let first := "UPDATE T SET a = 2 WHERE a = 1"
    let second := "DELETE FROM u WHERE b = 'x'"
    let c := (executeAll ∅ statements).2
    c.Apart (.update "T" (.ofList [("a", .integer 2)]) (some ⟨"a", .integer 1⟩))
        (.delete "u" (some ⟨"b", .text "x"⟩)) ∧
      ∃ after,
        executeAll c [first, second] =
          ([.ok (.updated 1 ⟨["a"], [[.integer 2]]⟩), .ok (.deleted 1)], after) ∧
        executeAll c [second, first] =
          ([.ok (.deleted 1), .ok (.updated 1 ⟨["a"], [[.integer 2]]⟩)], after) := by
  intro statements first second c
  have hc : (executeAll ∅ statements).2 =
      ⟨.ofList [("t", ⟨⟨"t", [⟨"a", .integer⟩], some "a"⟩, [[.integer 1]]⟩),
        ("u", ⟨⟨"u", [⟨"b", .text⟩], none⟩, [[.text "x"]]⟩)]⟩ := by decide +kernel
  have hfirst : Statement.parse first =
      .ok (.update "T" (.ofList [("a", .integer 2)]) (some ⟨"a", .integer 1⟩)) := by
    decide +kernel
  have hsecond : Statement.parse second = .ok (.delete "u" (some ⟨"b", .text "x"⟩)) := by
    decide +kernel
  have hapart : (executeAll ∅ statements).2.Apart
      (.update "T" (.ofList [("a", .integer 2)]) (some ⟨"a", .integer 1⟩))
      (.delete "u" (some ⟨"b", .text "x"⟩)) := by
    rw [hc]
    exact ⟨⟨rfl, rfl⟩, by decide +kernel, by decide +kernel⟩
  obtain ⟨after, horder, hother⟩ := execute_comm hfirst hsecond hapart
  have hupdated : (execute (executeAll ∅ statements).2 first).1 =
      .ok (.updated 1 ⟨["a"], [[.integer 2]]⟩) := by
    rw [hc]
    decide +kernel
  have hdeleted : (execute (executeAll ∅ statements).2 second).1 = .ok (.deleted 1) := by
    rw [hc]
    decide +kernel
  rw [hupdated, hdeleted] at horder hother
  exact ⟨hapart, after, horder, hother⟩

end Session

end RelStore
