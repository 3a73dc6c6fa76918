import Mathlib.Data.List.Count
import RelStore.Proofs.Grammar.DumpText
import RelStore.Proofs.Grammar.RoundTrip
import RelStore.Proofs.Session.Spellable
import RelStore.Proofs.Store.Rebuild

/-!
# Restoring a catalog from its statements

The statements of a catalog, carried out on the empty one, build the catalog again.  Each of them is
read back from its text, because what a session stores is writable.  The declaration of a table puts
it, without rows, at the end of the tables so far, whose names are all smaller; each insertion then
appends one row.
-/

namespace RelStore

/-! ## Statements that all succeed -/

namespace Session

/-- Every statement succeeds, and the run ends with the catalog. -/
def Completes (c : Catalog) (statements : List String) (c' : Catalog) : Prop :=
  (∀ answer ∈ (executeAll c statements).1, ∃ o, answer = .ok o) ∧ (executeAll c statements).2 = c'

variable {c c' c'' : Catalog}

theorem completes_nil (c : Catalog) : Completes c [] c :=
  ⟨by simp [executeAll], rfl⟩

theorem Completes.cons {sql : String} {o : Outcome} {rest : List String}
    (h : execute c sql = (.ok o, c')) (hrest : Completes c' rest c'') :
    Completes c (sql :: rest) c'' := by
  unfold Completes
  simp only [executeAll, h]
  refine ⟨fun answer hanswer => ?_, hrest.2⟩
  rcases List.mem_cons.mp hanswer with rfl | hanswer
  · exact ⟨o, rfl⟩
  · exact hrest.1 answer hanswer

theorem Completes.append {first second : List String} (hfirst : Completes c first c')
    (hsecond : Completes c' second c'') : Completes c (first ++ second) c'' := by
  unfold Completes
  rw [executeAll_append, hfirst.2]
  refine ⟨fun answer hanswer => ?_, hsecond.2⟩
  rcases List.mem_append.mp hanswer with hanswer | hanswer
  · exact hfirst.1 answer hanswer
  · exact hsecond.1 answer hanswer

end Session

theorem Statement.parse_compactText {s : Statement} (h : s.WellFormed Value.Spellable) :
    parse s.compactText = .ok s :=
  parse_layOut Lexeme.separates_standsApartTight h (.refl s)

/-! ## Declarations -/

namespace Schema

variable {s : Schema}

theorem wellFormed_declaration (hname : IsName s.name)
    (hcolumns : ∀ column ∈ s.columns, IsName column.name) (h : s.Consistent) :
    s.declaration.WellFormed Value.Spellable := by
  refine ⟨hname, ?_, by simp, fun hnil => ?_⟩
  · intro definition hdefinition
    obtain ⟨column, hcolumn, rfl⟩ := List.mem_map.mp hdefinition
    exact hcolumns column hcolumn
  · exact absurd (List.map_eq_nil_iff.mp hnil) h.columns_ne_nil

/-- The only column that is declared as a key is the key. -/
theorem declaredKey_declaration (h : s.Consistent) :
    Plan.declaredKey s.name
        (s.columns.map fun column => ⟨column.name, column.type, s.primaryKey = some column.name⟩)
        none = .ok s.primaryKey := by
  have hkeys : ((s.columns.map fun column => (⟨column.name, column.type,
      s.primaryKey = some column.name⟩ : ColumnDefinition)).filter (·.isKey)).map (·.name) =
        s.columnNames.filter fun name => s.primaryKey = some name := by
    simp [columnNames, List.filter_map, Function.comp_def]
  unfold Plan.declaredKey
  rw [hkeys]
  cases hkey : s.primaryKey with
  | none => simp
  | some key =>
      have hcount : s.columnNames.count key = 1 :=
        List.count_eq_one_of_mem h.nodup_columnNames (h.key_mem key hkey)
      have hfilter : (s.columnNames.filter fun name => some key = some name) = [key] := by
        simp only [Option.some.injEq, @eq_comm _ key]
        rw [List.filter_eq, hcount, List.replicate_one]
      rw [hfilter]
      rfl

/-- A declaration under a free name puts the table there. -/
theorem execute_declaration (h : s.Consistent) {c : Catalog} {sql : String}
    (hparse : Statement.parse sql = .ok s.declaration) (hfree : c.tables.get? s.name = none) :
    Session.execute c sql = (.ok (.created s.name), ⟨c.tables.insert s.name (.empty s)⟩) := by
  have hvalidate : s.validate = .ok () := Schema.validate_eq_ok_iff.mpr h
  have hcontains : c.tables.contains s.name = false := by simp [NameMap.contains, hfree]
  have hcreate : c.create s = .ok ⟨c.tables.insert s.name (.empty s)⟩ := by
    simp [Catalog.create, hcontains]
  have hcolumns : (s.columns.map fun column => (⟨column.name, column.type,
      s.primaryKey = some column.name⟩ : ColumnDefinition)).map
        (fun column => (⟨column.name, column.type⟩ : Column)) = s.columns := by
    simp [Function.comp_def]
  have hplan : Session.plan c sql = .ok (.createTable s) := by
    unfold Session.plan
    rw [hparse, ok_bind, declaration]
    show (Plan.declaredKey s.name _ none >>= _) = _
    rw [declaredKey_declaration h, ok_bind, hcolumns]
    rfl
  unfold Session.execute
  rw [hplan]
  simp only [Plan.run, Plan.runCreate, hvalidate, hcreate, ok_bind]
  rfl

end Schema

/-! ## Insertions -/

/-- The literal of a stored cell can be written in an insertion. -/
theorem spellable_insertedLiteral {type : ColumnType} {v : Value} (h : type.Holds v)
    (hv : v.Unquoted) : (insertedLiteral v).Spellable ∧ ∀ b, insertedLiteral v ≠ .boolean b := by
  cases v with
  | null => exact ⟨trivial, by simp [insertedLiteral]⟩
  | boolean b => exact ⟨trivial, by simp [insertedLiteral]⟩
  | integer i => exact ⟨trivial, by simp [insertedLiteral]⟩
  | float x => cases type <;> exact h.elim
  | text s => exact ⟨hv, by simp [insertedLiteral]⟩

theorem Schema.wellFormed_insertion {s : Schema} (hname : IsName s.name)
    (hcolumns : ∀ column ∈ s.columns, IsName column.name) (h : s.Consistent) {row : Row}
    (hrow : s.Admits row) (hunquoted : ∀ v ∈ row, v.Unquoted) :
    (s.insertion row).WellFormed Value.Spellable := by
  refine ⟨hname, ?_, ?_, h.nodup_columnNames, ?_, ?_⟩
  · exact fun hnil => h.columns_ne_nil (List.map_eq_nil_iff.mp hnil)
  · intro name hmem
    obtain ⟨column, hcolumn, rfl⟩ := List.mem_map.mp hmem
    exact hcolumns column hcolumn
  · simp [columnNames, hrow.length_eq]
  · intro literal hliteral
    obtain ⟨v, hv, rfl⟩ := List.mem_map.mp hliteral
    obtain ⟨column, -, hholds⟩ := exists_mem_of_forall₂ hrow hv
    exact spellable_insertedLiteral hholds (hunquoted v hv)

/-- An insertion into the table of the very name replaces it by the table with the row. -/
theorem Schema.execute_insertion {s : Schema} {c : Catalog} {sql : String} {rows : List Row}
    {row : Row} (hparse : Statement.parse sql = .ok (s.insertion row))
    (htable : c.tables.get? s.name = some ⟨s, rows⟩)
    (hvalid : (⟨s, rows ++ [row]⟩ : Table).Valid) :
    Session.execute c sql =
      (.ok (.inserted 1), ⟨c.tables.insert s.name ⟨s, rows ++ [row]⟩⟩) := by
  have hresolve : c.resolve? s.name = some s.name := by
    simp [Catalog.resolve?, NameMap.contains, htable]
  have hfind : c.find s.name = .ok ⟨s, rows⟩ := by
    simp [Catalog.find, Catalog.find?, hresolve, htable]
  have hplan : Session.plan c sql =
      .ok (.insert s.name s.columnNames (row.map insertedLiteral)) := by
    unfold Session.plan
    rw [hparse]
    rfl
  unfold Session.execute
  rw [hplan]
  simp only [Plan.run, Plan.runInsert, Catalog.change, hfind, hresolve, ok_bind,
    Table.insert_insertedLiteral hvalid]
  rfl

/-! ## Tables -/

open Session

/-- **Insertions of rows append them** to the table there is. -/
theorem Table.completes_insertions {s : Schema} (before after : List Row) {c : Catalog}
    (hvalid : (⟨s, before ++ after⟩ : Table).Valid)
    (hspellable : (⟨s, before ++ after⟩ : Table).Spellable)
    (htable : c.tables.get? s.name = some ⟨s, before⟩) :
    Completes c (after.map fun row => (s.insertion row).compactText)
      ⟨c.tables.insert s.name ⟨s, before ++ after⟩⟩ := by
  induction after generalizing before c with
  | nil =>
      rw [List.append_nil, NameMap.insert_of_get?_eq htable]
      exact completes_nil c
  | cons row after ih =>
      have hsplit : before ++ row :: after = before ++ [row] ++ after := by simp
      have hmem : row ∈ before ++ row :: after := by simp
      -- the rows up to this one make a valid table, so its key is new to the rows before
      have hnext : (⟨s, before ++ [row]⟩ : Table).Valid :=
        hvalid.of_sublist (by rw [hsplit]; exact List.sublist_append_left _ after)
      have hparse := Statement.parse_compactText (s.wellFormed_insertion hspellable.isName
        hspellable.isName_column hvalid.consistent (hvalid.admits row hmem)
        (hspellable.unquoted row hmem))
      rw [hsplit] at hvalid hspellable ⊢
      refine .cons (Schema.execute_insertion hparse htable hnext) ?_
      have hrest := ih (before ++ [row]) (c := ⟨c.tables.insert s.name ⟨s, before ++ [row]⟩⟩)
        hvalid hspellable (by simp)
      rwa [NameMap.insert_insert_self] at hrest

/-- **The statements of a table build it** under a free name. -/
theorem Table.completes_statements {t : Table} (hvalid : t.Valid) (hspellable : t.Spellable)
    {c : Catalog} (hfree : c.tables.get? t.schema.name = none) :
    Completes c (t.statements.map Statement.compactText)
      ⟨c.tables.insert t.schema.name t⟩ := by
  obtain ⟨s, rows⟩ := t
  have hparse := Statement.parse_compactText (Schema.wellFormed_declaration hspellable.isName
    hspellable.isName_column hvalid.consistent)
  have hrows := Table.completes_insertions (s := s) [] rows
    (c := ⟨c.tables.insert s.name (.empty s)⟩) hvalid hspellable (by simp [Table.empty])
  rw [NameMap.insert_insert_self, List.nil_append] at hrows
  rw [Table.statements, List.map_cons, List.map_map]
  exact .cons (Schema.execute_declaration hvalid.consistent hparse hfree) hrows

/-! ## Catalogs -/

namespace Catalog

/-- The statements of tables in order put them after the tables there are, whose names are less. -/
theorem completes_statements {entries : List (String × Table)}
    (hname : ∀ entry ∈ entries, entry.2.schema.name = entry.1)
    (hvalid : ∀ entry ∈ entries, entry.2.Valid)
    (hspellable : ∀ entry ∈ entries, entry.2.Spellable) {c : Catalog}
    (hordered : (c.tables.entries ++ entries).Pairwise (fun p q => p.1 < q.1)) :
    Completes c (entries.flatMap fun entry => entry.2.statements.map Statement.compactText)
      ⟨entries.foldl (fun m entry => m.insert entry.1 entry.2) c.tables⟩ := by
  induction entries generalizing c with
  | nil => exact completes_nil c
  | cons entry entries ih =>
      obtain ⟨name, t⟩ := entry
      obtain ⟨hname₁, hname⟩ := List.forall_mem_cons.mp hname
      obtain ⟨hvalid₁, hvalid⟩ := List.forall_mem_cons.mp hvalid
      obtain ⟨hspellable₁, hspellable⟩ := List.forall_mem_cons.mp hspellable
      have hgreatest : ∀ other ∈ c.tables.entries, other.1 < name := fun other hother =>
        (List.pairwise_append.mp hordered).2.2 other hother (name, t) List.mem_cons_self
      -- a name greater than all others is free
      have hfree : c.tables.get? t.schema.name = none := by
        have hcontains : c.tables.contains name = false :=
          NameMap.contains_eq_false_iff.mpr fun other hother =>
            NameMap.ne_of_lt (hgreatest other hother)
        rw [hname₁]
        simpa [NameMap.contains] using hcontains
      have hfirst := Table.completes_statements hvalid₁ hspellable₁ hfree
      rw [hname₁] at hfirst
      rw [List.flatMap_cons, List.foldl_cons]
      refine hfirst.append (ih hname hvalid hspellable ?_)
      rw [NameMap.entries_insert_of_forall_lt hgreatest]
      simpa using hordered

theorem dump_eq_flatMap (c : Catalog) :
    c.dump = c.tables.entries.flatMap fun entry => entry.2.statements.map Statement.compactText :=
  List.map_flatMap

/-- A valid table is written as its declaration and an insertion per row. -/
theorem texts_statements {t : Table} (ht : t.Valid) :
    t.statements.map Statement.compactText =
      t.schema.declarationText :: t.rows.map t.schema.insertionText := by
  have hne := ht.consistent.columns_ne_nil
  have hrows : t.rows.map (Statement.compactText ∘ t.schema.insertion) =
      t.rows.map t.schema.insertionText :=
    List.map_congr_left fun row hrow => Schema.compactText_insertion hne (ht.admits row hrow)
  rw [Table.statements, List.map_cons, List.map_map, Schema.compactText_declaration hne, hrows]

/-- **The statements of what a session made make it again.**  Whatever statements were carried out
on the empty catalog, those of the catalog that they end with are its declarations and insertions in
the order of names and rows, all succeed on the empty catalog, and end with the same catalog. -/
theorem executeAll_dump (statements : List String) :
    let c := (executeAll ∅ statements).2
    c.dump = (c.tables.entries.flatMap fun entry =>
        entry.2.schema.declarationText :: entry.2.rows.map entry.2.schema.insertionText) ∧
      (∀ answer ∈ (executeAll ∅ c.dump).1, ∃ o, answer = .ok o) ∧
      (executeAll ∅ c.dump).2 = c := by
  intro c
  have hvalid : c.Valid := valid_executeAll statements
  have hspellable : c.Spellable := spellable_executeAll statements
  have hget : ∀ entry ∈ c.tables.entries, c.tables.get? entry.1 = some entry.2 :=
    fun entry hentry => NameMap.get?_eq_some_iff.mpr hentry
  have hcompletes := completes_statements (c := ∅)
    (fun entry hentry => hvalid.name_eq (hget entry hentry))
    (fun entry hentry => hvalid.table (hget entry hentry))
    (fun entry hentry => hspellable _ _ (hget entry hentry)) c.tables.ordered
  have hbuilt : (c.tables.entries.foldl (fun m entry => m.insert entry.1 entry.2)
      (∅ : Catalog).tables) = c.tables := NameMap.ofList_entries c.tables
  rw [hbuilt, ← dump_eq_flatMap] at hcompletes
  refine ⟨?_, hcompletes⟩
  rw [dump_eq_flatMap]
  exact List.flatMap_congr fun entry hentry => texts_statements (hvalid.table (hget entry hentry))

example :
    (executeAll ∅ ["create table Left (Key int primary key, b bool, c varchar)",
      "insert into LEFT (b, key, c) values ('1', -9223372036854775808, null)",
      "insert into left (c, b, key) values (1.50, 0, null)"]).2.dump =
    ["CREATE TABLE left (key INT PRIMARY KEY, b BOOLEAN, c TEXT)",
      "INSERT INTO left (key, b, c) VALUES (-9223372036854775808, 1, null)",
      "INSERT INTO left (key, b, c) VALUES (null, 0, '1.5')"] := by
  decide +kernel

end Catalog

end RelStore
