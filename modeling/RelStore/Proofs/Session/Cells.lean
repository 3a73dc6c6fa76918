import RelStore.Proofs.Grammar.WellFormed
import RelStore.Proofs.Session.Reachable
import RelStore.Proofs.Store.Cells

/-!
# What the cells of a catalog have in common

A session stores what it casts from the literals of its statements.  So a property that casting
keeps is one of all cells of the catalog that a run ends with, if it is one of all literals of the
statements of the run.
-/

namespace RelStore

namespace Catalog

/-- Every cell of every table has the property. -/
def AllCells (P : Value → Prop) (c : Catalog) : Prop :=
  ∀ key t, c.tables.get? key = some t → RelStore.AllCells P t.rows

variable {P : Value → Prop} {c : Catalog}

theorem allCells_empty : (∅ : Catalog).AllCells P := nofun

namespace AllCells

theorem of_find (hc : c.AllCells P) {name : String} {t : Table} (h : c.find name = .ok t) :
    RelStore.AllCells P t.rows := by
  obtain ⟨key, -, hget⟩ := find_eq_ok h
  exact hc key t hget

theorem insert (hc : c.AllCells P) {t : Table} {name : String} (ht : RelStore.AllCells P t.rows) :
    (⟨c.tables.insert name t⟩ : Catalog).AllCells P := by
  intro key u h
  rw [NameMap.get?_insert] at h
  split at h
  next =>
    cases h
    exact ht
  next => exact hc key u h

end AllCells

variable (hcast : ∀ {type : ColumnType} {v w : Value}, type.cast v = .ok w → P v → P w)

include hcast

/-- **An execution stores what it casts from the literals of its text.** -/
theorem AllCells.execution (hc : c.AllCells P) {sql : String}
    (hsql : ∀ s, Statement.parse sql = .ok s → s.WellFormed P) {answer : Except Error Outcome}
    {c' : Catalog} (h : Execution c sql answer c') : c'.AllCells P := by
  cases h with
  | failed _ => exact hc
  | selected _ => exact hc
  | created _ _ _ _ => exact hc.insert nofun
  | inserted hparse _ htable hinsert =>
      obtain ⟨-, -, -, -, -, hvalues⟩ := hsql _ hparse
      exact hc.insert (.insert hcast (hc _ _ htable) (fun v hv => (hvalues v hv).1) hinsert)
  | updated hparse _ htable hupdate =>
      obtain ⟨-, -, hassigned, -⟩ := hsql _ hparse
      exact hc.insert (.update hcast (hc _ _ htable) (fun e he => (hassigned e he).2) hupdate)
  | deleted _ _ htable hdelete => exact hc.insert (.delete (hc _ _ htable) hdelete)

theorem allCells_executeAll {statements : List String}
    (h : ∀ sql ∈ statements, ∀ s, Statement.parse sql = .ok s → s.WellFormed P) :
    (Session.executeAll ∅ statements).2.AllCells P :=
  Session.executeAll_invariant_mem (AllCells P)
    (fun _ sql hsql _ _ hc hrun => hc.execution hcast (h sql hsql) hrun) allCells_empty

end Catalog

end RelStore
