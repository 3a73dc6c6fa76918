import RelStore.Proofs.NameMap
import RelStore.Proofs.Session.Execution

/-!
# Invariants of sessions

What the empty catalog has and every execution keeps, every run of statements ends with
(`executeAll_invariant`).  All invariants of sessions are proved through it.

The first of them is validity: every table is valid and registered under the name that its schema
gives it.  Only declarations make a new name, and every other change puts a valid table back where
a table of the same schema was found.
-/

namespace RelStore

/-! ## Runs -/

namespace Session

/-- **What the execution of every statement of a run keeps, the run keeps.** -/
theorem executeAll_invariant_mem (P : Catalog → Prop) {statements : List String}
    (hstep : ∀ c, ∀ sql ∈ statements, ∀ answer c', P c → Execution c sql answer c' → P c')
    {c : Catalog} (hc : P c) : P (executeAll c statements).2 := by
  induction statements generalizing c with
  | nil => exact hc
  | cons sql rest ih =>
      refine ih (fun c sql hsql => hstep c sql (List.mem_cons_of_mem _ hsql)) ?_
      exact hstep c sql List.mem_cons_self _ _ hc (execution c sql)

theorem executeAll_invariant (P : Catalog → Prop)
    (hstep : ∀ c sql answer c', P c → Execution c sql answer c' → P c') {c : Catalog} (hc : P c)
    (statements : List String) : P (executeAll c statements).2 :=
  executeAll_invariant_mem P (fun c sql _ => hstep c sql) hc

end Session

/-! ## Valid catalogs -/

namespace Catalog

/-- Every table is valid and registered under its own name. -/
structure Valid (c : Catalog) : Prop where
  name_eq : ∀ {key : String} {t : Table}, c.tables.get? key = some t → t.schema.name = key
  table : ∀ {key : String} {t : Table}, c.tables.get? key = some t → t.Valid

variable {c : Catalog}

theorem valid_empty : (∅ : Catalog).Valid where
  name_eq := nofun
  table := nofun

theorem Valid.of_find (hc : c.Valid) {name : String} {t : Table} (h : c.find name = .ok t) :
    t.Valid := by
  obtain ⟨key, -, hget⟩ := find_eq_ok h
  exact hc.table hget

/-- A table is found by the name that it is registered under. -/
theorem find?_of_get? {key : String} {t : Table} (h : c.tables.get? key = some t) :
    c.find? key = some t := by
  unfold find? resolve?
  rw [if_pos (by simp [NameMap.contains, h]), Option.bind_some, h]

/-- A table that is found is found by its own name as well. -/
theorem Valid.find_schema_name (hc : c.Valid) {name : String} {t : Table}
    (h : c.find name = .ok t) : c.find t.schema.name = .ok t := by
  obtain ⟨key, -, hget⟩ := find_eq_ok h
  rw [hc.name_eq hget]
  unfold find
  rw [find?_of_get? hget]

/-- Replacing a table leaves what names mean. -/
theorem resolve?_insert {key : String} {t t' : Table} (h : c.tables.get? key = some t)
    (name : String) : (⟨c.tables.insert key t'⟩ : Catalog).resolve? name = c.resolve? name := by
  have hisSome : ∀ query, ((c.tables.insert key t').get? query).isSome =
      (c.tables.get? query).isSome := by
    intro query
    rw [NameMap.get?_insert]
    by_cases heq : query = key
    · rw [if_pos heq, heq, h]
      rfl
    · rw [if_neg heq]
  have hnames : (c.tables.insert key t').names = c.tables.names :=
    NameMap.names_eq_of_isSome_eq hisSome
  unfold resolve? tableNames NameMap.contains
  rw [hnames, hisSome]

/-- A table is found again as what it is replaced by. -/
theorem find_insert {name key : String} {t t' : Table} (hkey : c.resolve? name = some key)
    (h : c.tables.get? key = some t) :
    (⟨c.tables.insert key t'⟩ : Catalog).find name = .ok t' := by
  unfold find find?
  rw [resolve?_insert h, hkey, Option.bind_some, NameMap.get?_insert_self]

/-- A valid table can be put under its own name. -/
theorem Valid.insert (hc : c.Valid) {t : Table} {name : String} (ht : t.Valid)
    (hname : t.schema.name = name) : (⟨c.tables.insert name t⟩ : Catalog).Valid := by
  have hcases : ∀ {key : String} {u : Table}, (c.tables.insert name t).get? key = some u →
      (key = name ∧ u = t) ∨ c.tables.get? key = some u := by
    intro key u h
    rw [NameMap.get?_insert] at h
    split at h
    next hkey => exact .inl ⟨hkey, (Option.some.inj h).symm⟩
    next => exact .inr h
  constructor
  · intro key u h
    rcases hcases h with ⟨rfl, rfl⟩ | h
    · exact hname
    · exact hc.name_eq h
  · intro key u h
    rcases hcases h with ⟨-, rfl⟩ | h
    · exact ht
    · exact hc.table h

/-- **Every execution keeps a valid catalog valid.** -/
theorem Valid.execution (hc : c.Valid) {sql : String} {answer : Except Error Outcome}
    {c' : Catalog} (h : Execution c sql answer c') : c'.Valid := by
  cases h with
  | failed _ => exact hc
  | selected _ => exact hc
  | created _ _ hconsistent _ => exact hc.insert (Table.valid_empty hconsistent) rfl
  | inserted _ _ htable hinsert =>
      refine hc.insert ((hc.table htable).insert hinsert) ?_
      rw [Table.schema_insert hinsert]
      exact hc.name_eq htable
  | updated _ _ htable hupdate =>
      refine hc.insert ((hc.table htable).update hupdate) ?_
      rw [Table.schema_update hupdate]
      exact hc.name_eq htable
  | deleted _ _ htable hdelete =>
      refine hc.insert ((hc.table htable).delete hdelete) ?_
      rw [Table.schema_delete hdelete]
      exact hc.name_eq htable

theorem valid_executeAll (statements : List String) : (Session.executeAll ∅ statements).2.Valid :=
  Session.executeAll_invariant Catalog.Valid (fun _ _ _ _ hc h => hc.execution h) valid_empty
    statements

/-- **Every run of statements from the empty catalog ends with tables that keep their schemas.**
Each is registered under its schema's name, the schema is an accepted one, each row has per column
a value that the column's type may hold, and different rows have different keys, the null
excepted. -/
theorem tables_of_executeAll (statements : List String) :
    ∀ entry ∈ (Session.executeAll ∅ statements).2.tables.entries,
      entry.1 = entry.2.schema.name ∧
      entry.2.schema.validate = .ok () ∧ entry.2.schema.Consistent ∧
      (∀ row ∈ entry.2.rows, row.length = entry.2.schema.columns.length ∧
        ∀ (i : Nat) column v, entry.2.schema.columns[i]? = some column → row[i]? = some v →
          column.type.Holds v) ∧
      ∀ key, entry.2.schema.primaryKey = some key →
        ∃ i, entry.2.schema.position? key = some i ∧
          ∀ (m n : Nat) row other, entry.2.rows[m]? = some row → entry.2.rows[n]? = some other →
            m ≠ n → cellAt row i ≠ .null → cellAt row i ≠ cellAt other i := by
  rintro ⟨name, t⟩ hentry
  have hvalid := valid_executeAll statements
  have hget := NameMap.get?_eq_some_iff.mpr hentry
  have ht : t.Valid := hvalid.table hget
  refine ⟨(hvalid.name_eq hget).symm, Schema.validate_eq_ok_iff.mpr ht.consistent, ht.consistent,
    ?_, ?_⟩
  · intro row hrow
    have hadmits := ht.admits row hrow
    refine ⟨hadmits.length_eq, fun i column v hcolumn hv => ?_⟩
    have hholds := hadmits.holds_cellAt hcolumn
    rw [cellAt, hv, Option.getD_some] at hholds
    exact hholds
  · intro key hkey
    obtain ⟨i, hposition⟩ := Schema.exists_position?_of_mem (ht.consistent.key_mem key hkey)
    refine ⟨i, hposition, fun m n row other hrow hother hne hnotNull => ?_⟩
    have hnodup := ht.keys_nodup key i (Schema.keyColumn?_eq_some_iff.mpr ⟨hkey, hposition⟩)
    obtain ⟨hm, rfl⟩ := List.getElem?_eq_some_iff.mp hrow
    obtain ⟨hn, rfl⟩ := List.getElem?_eq_some_iff.mp hother
    exact cellAt_ne_of_keysAt_nodup hnodup hm hn hne hnotNull

/-- A run that makes a table of two rows, a third one having been refused. -/
theorem tables_of_executeAll_twoRows :
    let t : Table :=
      ⟨⟨"t", [⟨"a", .integer⟩], some "a"⟩, [[.integer (-1)], [.integer 2]]⟩
    ("t", t) ∈ (Session.executeAll ∅ ["CREATE TABLE t (a INT PRIMARY KEY)",
      "INSERT INTO t (a) VALUES (-1)", "insert into T (a) values (2)",
      "INSERT INTO t (a) VALUES ('2')"]).2.tables.entries ∧
      t.schema.validate = .ok () ∧ (∀ row ∈ t.rows, row.length = 1) ∧
      ∃ i, cellAt [.integer (-1)] i ≠ cellAt [.integer 2] i := by
  intro t
  have hmem : ("t", t) ∈ (Session.executeAll ∅ ["CREATE TABLE t (a INT PRIMARY KEY)",
      "INSERT INTO t (a) VALUES (-1)", "insert into T (a) values (2)",
      "INSERT INTO t (a) VALUES ('2')"]).2.tables.entries := by decide +kernel
  obtain ⟨-, hvalidate, -, hrows, hkeys⟩ := tables_of_executeAll _ _ hmem
  obtain ⟨i, hi, hdiffer⟩ := hkeys "a" rfl
  obtain rfl : 0 = i := Option.some.inj hi
  exact ⟨hmem, hvalidate, fun row hrow => (hrows row hrow).1, 0,
    hdiffer 0 1 _ _ rfl rfl (by decide) (by decide)⟩

end Catalog

end RelStore
