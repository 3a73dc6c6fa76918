import RelStore.Proofs.Plan.WellFormed
import RelStore.Proofs.Relation.Reports
import RelStore.Proofs.Session.Cells

/-!
# What running a plan reports

A plan that only reads answers rows of stored cells, of nulls and of what its stages compute
(`OnlyReads.allCells_run`).  So whatever a stage is to show it shows of a literal of the plan or of
a stored cell, and all messages of a run of a proper and well-formed plan break only for texts among
these (`WellFormed.failsOnly_run`).
-/

namespace RelStore

open Text

namespace Plan

variable {c : Catalog}

/-- **Selected cells have what all stored cells and all values other than texts have.** -/
theorem OnlyReads.allCells_run {P : Value → Prop} (hother : ∀ v, (∀ s, v ≠ .text s) → P v)
    {p : Plan} (hp : p.OnlyReads) (hc : c.AllCells P) {r : Relation}
    (h : (p.run c).1 = .ok (.rows r)) : AllCells P r.rows := by
  induction p generalizing r with
  | createTable schema => exact hp.elim
  | insert table columns values => exact hp.elim
  | update table assignments test => exact hp.elim
  | delete table test => exact hp.elim
  | scan table =>
      obtain ⟨t, ht, h⟩ := map_eq_ok_iff.mp h
      cases h
      exact hc.of_find ht
  | join source table kind left right qualifier ih =>
      obtain ⟨r, hr, h⟩ := andThen_eq_ok_iff.mp h
      obtain ⟨t, ht, h⟩ := bind_eq_ok_iff.mp h
      have hsource : source.OnlyReads := hp
      rw [(hsource.run c).1] at ht
      exact (ih hp hr).join hother (hc.of_find ht) h
  | filter source conditions types ih =>
      obtain ⟨r, hr, h⟩ := andThen_eq_ok_iff.mp h
      exact (ih hp hr).filter h
  | group source groupBy items having types ih =>
      obtain ⟨r, hr, h⟩ := andThen_eq_ok_iff.mp h
      exact (ih hp hr).group hother h
  | distinct source columns ih =>
      obtain ⟨r, hr, h⟩ := andThen_eq_ok_iff.mp h
      exact (ih hp hr).distinct h
  | sort source key ih =>
      obtain ⟨r, hr, h⟩ := andThen_eq_ok_iff.mp h
      exact (ih hp hr).sort h
  | skip source count ih =>
      obtain ⟨r, hr, h⟩ := andThen_eq_ok_iff.mp h
      cases h
      exact (ih hp hr).of_subset (List.drop_subset _ _)
  | take source count ih =>
      obtain ⟨r, hr, h⟩ := andThen_eq_ok_iff.mp h
      cases h
      exact (ih hp hr).of_subset (List.take_subset _ _)
  | project source items ih =>
      obtain ⟨r, hr, h⟩ := andThen_eq_ok_iff.mp h
      exact (ih hp hr).project hother h

/-! ## Errors -/

variable {texts : String → Prop}

/-- A declaration that is refused is shown by its names. -/
theorem failsOnly_runCreate (c : Catalog) {schema : Schema} {literal : Value → Prop}
    (h : (createTable schema).WellFormed literal) :
    FailsOnly (Error.SingleLineUnless texts) (runCreate c schema) := by
  obtain ⟨hname, hcolumns, hkey⟩ := h
  refine failsOnly_bind (schema.failsOnly_validate hname.singleLine (fun column hcolumn => ?_)
    fun key hmem => (hkey key hmem).singleLine) fun _ _ => ?_
  · obtain ⟨definition, hdefinition, rfl⟩ := List.mem_map.mp hcolumn
    exact (hcolumns definition hdefinition).singleLine
  · exact failsOnly_bind (c.failsOnly_create hname.singleLine) fun _ _ => failsOnly_ok _

/-- **A plan shows names, its literals and stored cells.** -/
theorem WellFormed.failsOnly_run (hc : c.Spellable)
    (hcells : c.AllCells (Value.SingleLineUnless texts)) {p : Plan} (hproper : p.Proper)
    (hp : p.WellFormed (Value.SingleLineUnless texts)) :
    FailsOnly (Error.SingleLineUnless texts) (p.run c).1 := by
  have hrows : ∀ {source : Plan}, source.OnlyReads → ∀ r, (source.run c).1 = .ok (.rows r) →
      AllCells (Value.SingleLineUnless texts) r.rows := fun hsource _ hr =>
    hsource.allCells_run (fun _ => Value.singleLineUnless_of_ne_text) hcells hr
  induction p with
  | createTable schema => exact failsOnly_commit c (failsOnly_runCreate c hp)
  | insert table columns values =>
      refine failsOnly_commit c (c.failsOnly_change hp.1.singleLine fun t ht => ?_)
      exact failsOnly_bind (Table.failsOnly_insert (hc.of_find ht) hp.2.1 hp.2.2) fun _ _ =>
        failsOnly_ok _
  | update table assignments test =>
      refine failsOnly_commit c (c.failsOnly_change hp.1.singleLine fun t ht => ?_)
      refine failsOnly_bind ?_ fun _ _ => failsOnly_ok _
      exact Table.failsOnly_update (hc.of_find ht) (hcells.of_find ht) hp.2.1 hp.2.2
  | delete table test =>
      refine failsOnly_commit c (c.failsOnly_change hp.1.singleLine fun t ht => ?_)
      refine failsOnly_bind ?_ fun _ _ => failsOnly_ok _
      exact failsOnly_bind (t.failsOnly_bindTest hp.2) fun _ _ => failsOnly_ok _
  | scan table => exact failsOnly_map _ (c.failsOnly_find (IsName.singleLine hp))
  | join source table kind left right qualifier ih =>
      obtain ⟨hsource, htable, hleft, hright⟩ := hp
      refine hproper.1.failsOnly_andThen (ih hproper.2 hsource) fun r _ => ?_
      refine failsOnly_bind (c.failsOnly_find htable.singleLine) fun t _ => ?_
      exact r.failsOnly_join t kind hleft hright qualifier
  | filter source conditions types ih =>
      exact hproper.1.failsOnly_andThen (ih hproper.2.1 hp.1) fun r _ =>
        r.failsOnly_filter hp.2 types
  | group source groupBy items having types ih =>
      obtain ⟨hsource, hgroupBy, hitems, hhaving⟩ := hp
      refine hproper.1.failsOnly_andThen (ih hproper.2.1 hsource) fun r hr => ?_
      exact r.failsOnly_group (hrows hproper.1 r hr) hgroupBy hitems hhaving types
  | distinct source columns ih =>
      exact hproper.1.failsOnly_andThen (ih hproper.2 hp.1) fun r _ => r.failsOnly_distinct hp.2
  | sort source key ih =>
      exact hproper.1.failsOnly_andThen (ih hproper.2 hp.1) fun r _ => r.failsOnly_sort hp.2
  | skip source count ih =>
      exact hproper.1.failsOnly_andThen (ih hproper.2 hp) fun _ _ => failsOnly_ok _
  | take source count ih =>
      exact hproper.1.failsOnly_andThen (ih hproper.2 hp) fun _ _ => failsOnly_ok _
  | project source items ih =>
      exact hproper.1.failsOnly_andThen (ih hproper.2.1 hp.1) fun r _ => r.failsOnly_project hp.2

end Plan

end RelStore
