import RelStore.Proofs.Relation.Sorter
import RelStore.Session

/-!
# Plans carried out with a given sort

Only the sorting stages of a plan depend on the sort that it is carried out with.  If at each of
them the sort does what sorting by insertion does, then so does the plan (`runWith_eq_run`).  That
is the case

* for sorting by insertion itself, whatever the plan (`runWith_insertion`);
* for every stable sort, if the plan sorts totally ordered rows only
  (`runWith_eq_run_of_sortsTotally`).

Whatever the sort does, it leaves the catalog alone (`catalog_of_runWith`).
-/

namespace RelStore

namespace Plan

variable {sorter : Sorter} {c : Catalog} {p : Plan}

/-- The property holds of all rows that the plan sorts on the catalog, and of the key that it sorts
them by. -/
def EverySort (P : Relation → SortKey → Prop) (c : Catalog) : Plan → Prop
  | sort source key =>
    source.EverySort P c ∧ ∀ r, ((source.run c).1 >>= Outcome.relation) = .ok r → P r key
  | join source _ _ _ _ _ => source.EverySort P c
  | filter source _ _ => source.EverySort P c
  | group source _ _ _ _ => source.EverySort P c
  | distinct source _ => source.EverySort P c
  | skip source _ => source.EverySort P c
  | take source _ => source.EverySort P c
  | project source _ => source.EverySort P c
  | _ => True

/-- The plan sorts only rows that its keys order totally. -/
def SortsTotally (p : Plan) (c : Catalog) : Prop :=
  p.EverySort Relation.SortsTotally c

instance decidableEverySort (P : Relation → SortKey → Prop) [∀ r key, Decidable (P r key)]
    (c : Catalog) : (p : Plan) → Decidable (p.EverySort P c)
  | sort source _ => @instDecidableAnd _ _ (decidableEverySort P c source) (decidableForallOk _)
  | join source _ _ _ _ _ => decidableEverySort P c source
  | filter source _ _ => decidableEverySort P c source
  | group source _ _ _ _ => decidableEverySort P c source
  | distinct source _ => decidableEverySort P c source
  | skip source _ => decidableEverySort P c source
  | take source _ => decidableEverySort P c source
  | project source _ => decidableEverySort P c source
  | createTable _ | insert _ _ _ | update _ _ _ | delete _ _ | scan _ => .isTrue trivial

theorem everySort_of_forall {P : Relation → SortKey → Prop} (h : ∀ r key, P r key) (c : Catalog)
    (p : Plan) : p.EverySort P c := by
  induction p with
  | sort _ key ih => exact ⟨ih, fun r _ => h r key⟩
  | join _ _ _ _ _ _ ih | filter _ _ _ ih | group _ _ _ _ _ ih | distinct _ _ ih | skip _ _ ih
  | take _ _ ih | project _ _ ih => exact ih
  | _ => trivial

theorem EverySort.imp {P Q : Relation → SortKey → Prop} (himp : ∀ r key, P r key → Q r key)
    (h : p.EverySort P c) : p.EverySort Q c := by
  induction p with
  | sort _ key ih => exact ⟨ih h.1, fun r hr => himp r key (h.2 r hr)⟩
  | join _ _ _ _ _ _ ih | filter _ _ _ ih | group _ _ _ _ _ ih | distinct _ _ ih | skip _ _ ih
  | take _ _ ih | project _ _ ih => exact ih h
  | _ => trivial

/-! ## What plans answer -/

theorem sortStage_eq_andThen {key : SortKey} {result : Except Error Outcome × Catalog}
    (h : ∀ r, (result.1 >>= Outcome.relation) = .ok r →
      r.sortWith sorter key = some (r.sort key)) :
    sortStage sorter key result = some (andThen result fun _ r => r.sort key) := by
  obtain ⟨answer, c⟩ := result
  cases answer with
  | error e => rfl
  | ok outcome =>
      cases outcome with
      | rows r =>
          show (r.sortWith sorter key).map _ =
            some (r.sort key >>= fun sorted => .ok (Outcome.rows sorted), c)
          rw [h r rfl]
          cases r.sort key <;> rfl
      | _ => rfl

/-- **A plan answers what it does when rows are sorted by insertion**, if its sorts do the same. -/
theorem runWith_eq_run
    (h : p.EverySort (fun r key => r.sortWith sorter key = some (r.sort key)) c) :
    p.runWith sorter c = some (p.run c) := by
  induction p with
  | sort source key ih =>
      obtain ⟨hsource, hkey⟩ := h
      rw [runWith, ih hsource, Option.bind_some]
      exact sortStage_eq_andThen hkey
  | join _ _ _ _ _ _ ih | filter _ _ _ ih | group _ _ _ _ _ ih | distinct _ _ ih | skip _ _ ih
  | take _ _ ih | project _ _ ih => rw [runWith, ih h, Option.map_some, run]
  | _ => rfl

theorem runWith_eq_run_of_sortsTotally (hstable : sorter.Stable) (h : p.SortsTotally c) :
    p.runWith sorter c = some (p.run c) :=
  runWith_eq_run (h.imp fun _ _ => Relation.sortWith_eq_sort hstable)

theorem runWith_insertion (p : Plan) (c : Catalog) : p.runWith .insertion c = some (p.run c) :=
  runWith_eq_run (everySort_of_forall Relation.sortWith_insertion c p)

/-! ## What plans leave -/

theorem catalog_of_sortStage {key : SortKey} {result result' : Except Error Outcome × Catalog}
    (h : sortStage sorter key result = some result') : result'.2 = result.2 := by
  unfold sortStage at h
  split at h
  · obtain ⟨_, -, rfl⟩ := Option.map_eq_some_iff.mp h
    rfl
  · cases h
    rfl

/-- **No sort makes a difference to the catalog.** -/
theorem catalog_of_runWith {result : Except Error Outcome × Catalog}
    (h : p.runWith sorter c = some result) : result.2 = (p.run c).2 := by
  induction p generalizing result with
  | sort source key ih =>
      obtain ⟨answered, hanswered, hsorted⟩ := Option.bind_eq_some_iff.mp h
      exact (catalog_of_sortStage hsorted).trans (ih hanswered)
  | join _ _ _ _ _ _ ih | filter _ _ _ ih | group _ _ _ _ _ ih | distinct _ _ ih | skip _ _ ih
  | take _ _ ih | project _ _ ih =>
      obtain ⟨answered, hanswered, rfl⟩ := Option.map_eq_some_iff.mp h
      have hcatalog := ih hanswered
      exact hcatalog
  | _ =>
      cases h
      rfl

end Plan

/-! ## Statements -/

namespace Session

variable {sorter : Sorter} {c : Catalog} {sql : String}

/-- The statement sorts only rows that its keys order totally. -/
def SortsTotally (c : Catalog) (sql : String) : Prop :=
  ∀ p, plan c sql = .ok p → p.SortsTotally c

instance : Decidable (SortsTotally c sql) :=
  @decidableForallOk _ _ _ (fun p => Plan.decidableEverySort _ c p) _

theorem executeWith_eq_execute (hstable : sorter.Stable) (h : SortsTotally c sql) :
    executeWith sorter c sql = some (execute c sql) := by
  unfold executeWith execute
  cases hplan : plan c sql with
  | ok p => exact Plan.runWith_eq_run_of_sortsTotally hstable (h p hplan)
  | error e => rfl

/-- **With sorting by insertion a statement is answered as in a session.** -/
theorem executeWith_insertion (c : Catalog) (sql : String) :
    executeWith .insertion c sql = some (execute c sql) := by
  unfold executeWith execute
  cases plan c sql with
  | ok p => exact p.runWith_insertion c
  | error e => rfl

theorem catalog_of_executeWith {result : Except Error Outcome × Catalog}
    (h : executeWith sorter c sql = some result) : result.2 = (execute c sql).2 := by
  unfold executeWith at h
  unfold execute
  cases hplan : plan c sql with
  | ok p =>
      rw [hplan] at h
      exact Plan.catalog_of_runWith h
  | error e =>
      rw [hplan] at h
      cases h
      rfl

end Session

end RelStore
