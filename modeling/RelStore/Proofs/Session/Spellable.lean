import RelStore.Proofs.Grammar.AcceptedQuery
import RelStore.Proofs.Session.Reachable
import RelStore.Proofs.Store.Cells
import RelStore.Proofs.Value.Unquoted

/-!
# Names and texts that can be written again

Whatever a session stores came in through a text.  Tables and columns are named by names, and no
stored text has a quote in it: what is stored was cast from literals, which have none, and casting
makes none.
-/

namespace RelStore

/-- The cells of the table have no quotes in them, and its names are names. -/
structure Table.Spellable (t : Table) : Prop where
  isName : IsName t.schema.name
  isName_column : ∀ column ∈ t.schema.columns, IsName column.name
  unquoted : ∀ row ∈ t.rows, ∀ v ∈ row, v.Unquoted

namespace Table.Spellable

variable {t t' : Table}

theorem insert (ht : t.Spellable) {columns : List String} {values : List Value}
    (hvalues : ∀ v ∈ values, v.Unquoted) (h : t.insert columns values = .ok t') :
    t'.Spellable := by
  have hcells : AllCells Value.Unquoted t'.rows :=
    AllCells.insert ColumnType.unquoted_of_cast ht.unquoted hvalues h
  obtain ⟨-, row, -, -, rfl⟩ := Table.insert_eq_ok h
  exact ⟨ht.isName, ht.isName_column, hcells⟩

theorem update (ht : t.Spellable) {assignments : NameMap Value} {test : Option EqualityTest}
    {count : Nat} (hassignments : ∀ entry ∈ assignments.entries, entry.2.Unquoted)
    (h : t.update assignments test = .ok (count, t')) : t'.Spellable := by
  have hcells : AllCells Value.Unquoted t'.rows :=
    AllCells.update ColumnType.unquoted_of_cast ht.unquoted hassignments h
  obtain ⟨bound, boundTest, -, -, -, -, rfl⟩ := Table.update_eq_ok h
  exact ⟨ht.isName, ht.isName_column, hcells⟩

theorem delete (ht : t.Spellable) {test : EqualityTest} {count : Nat}
    (h : t.delete test = .ok (count, t')) : t'.Spellable := by
  have hcells : AllCells Value.Unquoted t'.rows := AllCells.delete ht.unquoted h
  obtain ⟨bound, -, -, rfl⟩ := Table.delete_eq_ok h
  exact ⟨ht.isName, ht.isName_column, hcells⟩

end Table.Spellable

namespace Catalog

/-- Every table can be written as statements. -/
def Spellable (c : Catalog) : Prop :=
  ∀ key t, c.tables.get? key = some t → t.Spellable

variable {c : Catalog}

theorem spellable_empty : (∅ : Catalog).Spellable := nofun

theorem Spellable.of_find (hc : c.Spellable) {name : String} {t : Table} (h : c.find name = .ok t) :
    t.Spellable := by
  obtain ⟨key, -, hget⟩ := find_eq_ok h
  exact hc key t hget

theorem Spellable.insert (hc : c.Spellable) {t : Table} {name : String} (ht : t.Spellable) :
    (⟨c.tables.insert name t⟩ : Catalog).Spellable := by
  intro key u h
  rw [NameMap.get?_insert] at h
  split at h
  next =>
    cases h
    exact ht
  next => exact hc key u h

/-- **Every execution keeps the names and texts of a catalog writable**: those that it adds were
read from its text. -/
theorem Spellable.execution (hc : c.Spellable) {sql : String} {answer : Except Error Outcome}
    {c' : Catalog} (h : Execution c sql answer c') : c'.Spellable := by
  cases h with
  | failed _ => exact hc
  | selected _ => exact hc
  | created hparse _ _ _ =>
      obtain ⟨hname, hcolumns, -, -⟩ := Statement.wellFormed_of_parse hparse
      refine hc.insert ⟨hname, fun column hcolumn => ?_, by simp [Table.empty]⟩
      obtain ⟨definition, hdefinition, rfl⟩ := List.mem_map.mp hcolumn
      exact hcolumns definition hdefinition
  | inserted hparse _ htable hinsert =>
      obtain ⟨-, -, -, -, -, hvalues⟩ := Statement.wellFormed_of_parse hparse
      exact hc.insert ((hc _ _ htable).insert (fun v hv => (hvalues v hv).1) hinsert)
  | updated hparse _ htable hupdate =>
      obtain ⟨-, -, hassignments, -⟩ := Statement.wellFormed_of_parse hparse
      exact hc.insert ((hc _ _ htable).update (fun entry he => (hassignments entry he).2) hupdate)
  | deleted _ _ htable hdelete => exact hc.insert ((hc _ _ htable).delete hdelete)

theorem spellable_executeAll (statements : List String) :
    (Session.executeAll ∅ statements).2.Spellable :=
  Session.executeAll_invariant Catalog.Spellable (fun _ _ _ _ hc h => hc.execution h)
    spellable_empty statements

end Catalog

end RelStore
