import RelStore.Proofs.Plan.Tables
import RelStore.Proofs.Text.ByteOrder

/-!
# Looking up tables

A name means the table of that very name.  If there is none it means the one of the least name, by
its bytes, of those that differ from it in ASCII letter case only (`Means`); reading a table and
changing it go by the same meaning.

The planner replaces the name that a query gives by the name of the schema found, which the run
looks up again.  Both find the same table, since no change of a catalog registers a table under
another name than its schema's (`Reachable.name_eq`), though names may differ in case only.
-/

namespace RelStore

namespace Catalog

/-- The catalogs that come of the empty one by adding tables and by changing the rows of tables. -/
inductive Reachable : Catalog → Prop
  | empty : Reachable ∅
  | create {c c' : Catalog} {schema : Schema} (hc : c.Reachable)
      (hcreate : c.create schema = .ok c') : Reachable c'
  | change {α : Type} {c c' : Catalog} {name : String} {f : Table → Except Error (α × Table)}
      {answer : α} (hc : c.Reachable)
      (hschema : ∀ t result, f t = .ok result → result.2.schema = t.schema)
      (hchange : c.change name f = .ok (answer, c')) : Reachable c'

variable {c : Catalog}

theorem create_eq_of_free (c : Catalog) (schema : Schema)
    (hfree : ¬ c.tables.contains schema.name = true) :
    c.create schema = .ok ⟨c.tables.insert schema.name (.empty schema)⟩ :=
  if_neg hfree

/-- Putting back the table found with other rows is a change. -/
theorem Reachable.insert (hc : c.Reachable) {name key : String} {t t' : Table}
    (hkey : c.resolve? name = some key) (ht : c.tables.get? key = some t)
    (hschema : t'.schema = t.schema) : Reachable ⟨c.tables.insert key t'⟩ := by
  have hchange : c.change name (fun u => .ok ((), { u with rows := t'.rows })) =
      .ok ((), ⟨c.tables.insert key t'⟩) := by
    rw [change_eq_of_resolve? hkey ht, ← hschema]
    rfl
  refine hc.change ?_ hchange
  rintro u _ ⟨⟩
  rfl

theorem Reachable.execution (hc : c.Reachable) {sql : String} {answer : Except Error Outcome}
    {c' : Catalog} (h : Execution c sql answer c') : c'.Reachable := by
  cases h with
  | failed _ => exact hc
  | selected _ => exact hc
  | @created name columns key primaryKey _ _ _ hfree =>
      have hcontains : ¬ c.tables.contains name = true := by simp [NameMap.contains, hfree]
      exact hc.create (c.create_eq_of_free (declaredSchema name columns primaryKey) hcontains)
  | inserted _ hkey ht hinsert => exact hc.insert hkey ht (Table.schema_insert hinsert)
  | updated _ hkey ht hupdate => exact hc.insert hkey ht (Table.schema_update hupdate)
  | deleted _ hkey ht hdelete => exact hc.insert hkey ht (Table.schema_delete hdelete)

/-- Every run of statements ends with such a catalog. -/
theorem reachable_executeAll (statements : List String) :
    (Session.executeAll ∅ statements).2.Reachable :=
  Session.executeAll_invariant Reachable (fun _ _ _ _ hc h => hc.execution h) .empty statements

/-- **Tables are registered under the names of their schemas.** -/
theorem Reachable.name_eq (hc : c.Reachable) {key : String} {t : Table}
    (h : c.tables.get? key = some t) : t.schema.name = key := by
  induction hc generalizing key t with
  | empty => cases h
  | create _ hcreate ih =>
      obtain ⟨-, rfl⟩ := create_eq_ok hcreate
      rw [NameMap.get?_insert] at h
      split at h
      next heq =>
        cases h
        exact heq.symm
      next => exact ih h
  | change _ hschema hchange ih =>
      obtain ⟨other, u, u', -, hu, hf, rfl⟩ := change_eq_ok hchange
      rw [NameMap.get?_insert] at h
      split at h
      next heq =>
        cases h
        rw [hschema _ _ hf, heq]
        exact ih hu
      next => exact ih h

/-! ## The meaning of a name -/

/-- The table is the one of the very name; or there is none, and it is the one of the least name,
by its bytes, of those that differ from the given one in ASCII letter case only. -/
def Means (c : Catalog) (name : String) (t : Table) : Prop :=
  c.tables.get? name = some t ∨
    c.tables.get? name = none ∧ ∃ key, c.tables.get? key = some t ∧
      Text.equalsIgnoreCase key name = true ∧
      ∀ other ∈ c.tableNames, Text.equalsIgnoreCase other name = true → other ≠ key →
        Text.bytes key < Text.bytes other

theorem find?_eq_some_iff_means {name : String} {t : Table} :
    c.find? name = some t ↔ c.Means name t := by
  unfold find? resolve? Means NameMap.contains
  cases hexact : c.tables.get? name with
  | some u => simp [hexact]
  | none =>
      simp only [Option.isSome_none, Bool.false_eq_true, if_false, reduceCtorEq, false_or, true_and,
        Option.bind_eq_some_iff, tableNames, NameMap.find?_names_eq_some_iff,
        ← Text.lt_iff_bytes_lt]
      constructor
      · rintro ⟨key, ⟨-, hcase, hleast⟩, hget⟩
        exact ⟨key, hget, hcase, hleast⟩
      · rintro ⟨key, hget, hcase, hleast⟩
        exact ⟨key, ⟨NameMap.mem_names_iff.mpr (by rw [hget]; rfl), hcase, hleast⟩, hget⟩

/-- A name that is resolved is resolved to the name of a table. -/
theorem mem_tableNames_of_resolve? {name key : String} (h : c.resolve? name = some key) :
    key ∈ c.tableNames := by
  unfold resolve? at h
  split at h
  next hexact =>
    cases h
    exact NameMap.mem_names_iff.mpr hexact
  next => exact List.mem_of_find?_eq_some h

theorem find?_eq_none_iff {name : String} :
    c.find? name = none ↔ ∀ key ∈ c.tableNames, Text.equalsIgnoreCase key name = false := by
  have hresolve : c.find? name = none ↔ c.resolve? name = none := by
    unfold find?
    rw [Option.bind_eq_none_iff]
    constructor
    · intro h
      by_contra hsome
      obtain ⟨key, hkey⟩ := Option.ne_none_iff_exists'.mp hsome
      have hmem := NameMap.mem_names_iff.mp (mem_tableNames_of_resolve? hkey)
      rw [h key hkey] at hmem
      cases hmem
    · intro h key hkey
      rw [h] at hkey
      cases hkey
  rw [hresolve]
  unfold resolve? NameMap.contains
  split
  next hexact =>
    -- the name is its own spelling
    refine iff_of_false (Option.some_ne_none _) fun h => ?_
    have hself := h name (NameMap.mem_names_iff.mpr hexact)
    rw [Text.equalsIgnoreCase_refl] at hself
    cases hself
  next => simp only [List.find?_eq_none, Bool.not_eq_true]

/-- A name is looked up to be changed as it is looked up to be read. -/
theorem Reachable.change_eq (hc : c.Reachable) {α : Type} (name : String)
    (f : Table → Except Error (α × Table)) :
    c.change name f =
      match c.find? name with
      | some t => (f t).map fun result => (result.1, ⟨c.tables.insert t.schema.name result.2⟩)
      | none => .error (.tableNotFound name) := by
  cases hfind : c.find? name with
  | none =>
      unfold Catalog.change find
      rw [hfind]
      rfl
  | some t =>
      obtain ⟨key, hkey, hget⟩ := Option.bind_eq_some_iff.mp hfind
      rw [change_eq_of_resolve? hkey hget]
      dsimp only
      rw [hc.name_eq hget]

/-- A table that is found is found by the name of its schema as well. -/
theorem Reachable.find?_schema_name (hc : c.Reachable) {name : String} {t : Table}
    (h : c.find? name = some t) : c.find? t.schema.name = some t := by
  obtain ⟨key, -, hget⟩ := Option.bind_eq_some_iff.mp h
  rw [hc.name_eq hget]
  exact find?_of_get? hget

/-- **A name means a table by its exact spelling first, then by its least spelling in another
case, and wherever it is looked up.**  What is found under the name of the schema found is the same
table again, so a plan is carried out on the tables that it was made for. -/
theorem lookup_exact_then_caseless (hc : c.Reachable) (name : String) :
    (∀ t : Table, c.find? name = some t ↔ c.Means name t) ∧
    (c.find? name = none ↔
      ∀ key : String, key ∈ c.tableNames → Text.equalsIgnoreCase key name = false) ∧
    (∀ (α : Type) (f : Table → Except Error (α × Table)), c.change name f =
      match c.find? name with
      | some t => (f t).map fun result => (result.1, ⟨c.tables.insert t.schema.name result.2⟩)
      | none => .error (.tableNotFound name)) ∧
    (∀ t : Table, c.find? name = some t → c.find? t.schema.name = some t) ∧
    ∀ (q : Query) (p : Plan), Plan.ofQuery c q = .ok p →
      List.Forall₂ (fun written planned : String => ∃ t : Table, c.find? written = some t ∧
        t.schema.name = planned ∧ c.find? planned = some t) q.tableNames p.tableNames := by
  refine ⟨fun t => find?_eq_some_iff_means, find?_eq_none_iff, fun α f => hc.change_eq name f,
    fun t h => hc.find?_schema_name h, fun q p hplan => ?_⟩
  refine (Plan.plannedAs_of_ofQuery hplan).imp ?_
  rintro written _ ⟨t, ht, rfl⟩
  have hfind := find_eq_ok_iff.mp ht
  exact ⟨t, hfind, rfl, hc.find?_schema_name hfind⟩

/-- Of two tables whose names differ in case only, a third spelling means the one in capitals, in a
query as well. -/
theorem lookup_exact_then_caseless_capitals :
    let c := (Session.executeAll ∅ ["CREATE TABLE ab (a INT)", "CREATE TABLE AB (b INT)"]).2
    let t : Table := ⟨⟨"AB", [⟨"b", .integer⟩], none⟩, []⟩
    let q : Query := ⟨false, [.star], ⟨"Ab", none⟩, [], none, none, none, none, none, none⟩
    c.Reachable ∧ c.tableNames = ["AB", "ab"] ∧ c.Means "Ab" t ∧ c.find? "AB" = some t ∧
      c.find? "b" = none ∧
      Plan.ofQuery c q = .ok (.scan "AB") ∧
      ∃ found, c.find? "Ab" = some found ∧ found.schema.name = "AB" ∧
        c.find? "AB" = some found := by
  intro c t q
  have hfind : c.find? "Ab" = some t := by decide +kernel
  have hplan : Plan.ofQuery c q = .ok (.scan "AB") := by decide +kernel
  have hreach : c.Reachable := reachable_executeAll _
  obtain ⟨hmeans, -, -, hagain, hplanned⟩ := lookup_exact_then_caseless hreach "Ab"
  obtain ⟨-, hnone, -⟩ := lookup_exact_then_caseless hreach "b"
  refine ⟨hreach, by decide +kernel, (hmeans t).mp hfind, hagain t hfind,
    hnone.mpr (by decide +kernel), hplan, ?_⟩
  exact (List.forall₂_cons.mp (hplanned q _ hplan)).1

end Catalog

end RelStore
