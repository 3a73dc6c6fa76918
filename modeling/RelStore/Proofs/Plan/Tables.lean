import RelStore.Proofs.Plan.Answer
import RelStore.Proofs.Plan.Proper
import RelStore.Proofs.Session.Reachable

/-!
# The tables that a query reads

A query reads the tables that its source and its joins name, and nothing else of the catalog, so it
answers the same on catalogs in which these names find the same tables (`answer_congr`).

The names are looked up twice: the planner looks them up as they are written, the run looks up the
names that the schemas found then bear.  On a valid catalog the second lookup finds what the first
one did, since a table is registered under the name of its schema.
-/

namespace RelStore

/-- The names of the tables that the query reads. -/
def Query.tableNames (q : Query) : List String :=
  q.source.name :: q.joins.map (·.table)

namespace Plan

variable {c c' : Catalog}

/-! ## Running -/

/-- The names of the tables that the stages look up. -/
def tableNames : Plan → List String
  | createTable schema => [schema.name]
  | insert table _ _ => [table]
  | update table _ _ => [table]
  | delete table _ => [table]
  | scan table => [table]
  | join source table _ _ _ _ => source.tableNames ++ [table]
  | filter source _ _ => source.tableNames
  | group source _ _ _ _ => source.tableNames
  | distinct source _ => source.tableNames
  | sort source _ => source.tableNames
  | skip source _ => source.tableNames
  | take source _ => source.tableNames
  | project source _ => source.tableNames

/-- A stage answers the same of sources that answer the same. -/
theorem andThen_congr {result result' : Except Error Outcome × Catalog}
    {stage stage' : Catalog → Relation → Except Error Relation} (hresult : result'.1 = result.1)
    (hstage : ∀ r, stage' result'.2 r = stage result.2 r) :
    (andThen result' stage').1 = (andThen result stage).1 := by
  unfold andThen
  simp only [hresult, hstage]

/-- What a plan that only reads answers is decided by the tables it looks up. -/
theorem OnlyReads.run_congr {p : Plan} (h : p.OnlyReads)
    (hfind : ∀ name ∈ p.tableNames, c'.find name = c.find name) : (p.run c').1 = (p.run c).1 := by
  induction p with
  | createTable _ => exact h.elim
  | insert _ _ _ => exact h.elim
  | update _ _ _ => exact h.elim
  | delete _ _ => exact h.elim
  | scan table =>
      show (c'.find table).map _ = (c.find table).map _
      rw [hfind table List.mem_cons_self]
  | join source table kind left right qualifier ih =>
      obtain ⟨hsource, htable⟩ := List.forall_mem_append.mp hfind
      have hreads : source.OnlyReads := h
      refine andThen_congr (ih hreads hsource) fun r => ?_
      -- the source leaves both catalogs as they are
      rw [(hreads.run c').1, (hreads.run c).1, htable table List.mem_cons_self]
  | filter source _ _ ih => exact andThen_congr (ih h hfind) fun _ => rfl
  | group source _ _ _ _ ih => exact andThen_congr (ih h hfind) fun _ => rfl
  | distinct source _ ih => exact andThen_congr (ih h hfind) fun _ => rfl
  | sort source _ ih => exact andThen_congr (ih h hfind) fun _ => rfl
  | skip source _ ih => exact andThen_congr (ih h hfind) fun _ => rfl
  | take source _ ih => exact andThen_congr (ih h hfind) fun _ => rfl
  | project source _ ih => exact andThen_congr (ih h hfind) fun _ => rfl

/-! ## Planning -/

theorem sourceStages_congr {source : TableReference} {joins : List Join}
    (hsource : c'.find source.name = c.find source.name)
    (hjoins : ∀ join ∈ joins, c'.find join.table = c.find join.table) :
    sourceStages c' source joins = sourceStages c source joins := by
  have hfold : ∀ stage, joins.foldlM (joinStage c') stage = joins.foldlM (joinStage c) stage := by
    induction joins with
    | nil => exact fun _ => rfl
    | cons join joins ih =>
        obtain ⟨hjoin, hjoins⟩ := List.forall_mem_cons.mp hjoins
        intro stage
        rw [List.foldlM_cons, List.foldlM_cons]
        unfold joinStage
        rw [hjoin]
        exact bind_congr fun _ => ih hjoins _
  unfold sourceStages
  rw [hsource]
  exact bind_congr fun _ => hfold _

theorem ofQuery_congr {q : Query} (hfind : ∀ name ∈ q.tableNames, c'.find name = c.find name) :
    ofQuery c' q = ofQuery c q := by
  obtain ⟨hsource, hjoins⟩ := List.forall_mem_cons.mp hfind
  unfold ofQuery
  rw [sourceStages_congr hsource (List.forall_mem_map.mp hjoins)]

/-- The first name finds a table, and the second is the one that the table's schema bears. -/
def PlannedAs (c : Catalog) (written planned : String) : Prop :=
  ∃ t, c.find written = .ok t ∧ t.schema.name = planned

theorem plannedAs_of_joins {joins : List Join} {stage stage' : Plan × ColumnTypes}
    {names : List String} (hstage : List.Forall₂ (PlannedAs c) names stage.1.tableNames)
    (h : joins.foldlM (joinStage c) stage = .ok stage') :
    List.Forall₂ (PlannedAs c) (names ++ joins.map (·.table)) stage'.1.tableNames := by
  induction joins generalizing stage names with
  | nil =>
      cases h
      rwa [List.map_nil, List.append_nil]
  | cons join joins ih =>
      rw [List.foldlM_cons] at h
      obtain ⟨next, hnext, h⟩ := bind_eq_ok_iff.mp h
      unfold joinStage at hnext
      obtain ⟨t, ht, hnext⟩ := bind_eq_ok_iff.mp hnext
      cases hnext
      rw [List.map_cons, List.append_cons]
      refine ih ?_ h
      exact List.rel_append hstage (.cons ⟨t, ht, rfl⟩ .nil)

theorem plannedAs_of_sourceStages {source : TableReference} {joins : List Join}
    {stage : Plan × ColumnTypes} (h : sourceStages c source joins = .ok stage) :
    List.Forall₂ (PlannedAs c) (source.name :: joins.map (·.table)) stage.1.tableNames := by
  unfold sourceStages at h
  obtain ⟨t, ht, h⟩ := bind_eq_ok_iff.mp h
  change List.Forall₂ (PlannedAs c) ([source.name] ++ joins.map (·.table)) _
  exact plannedAs_of_joins (.cons ⟨t, ht, rfl⟩ .nil) h

theorem tableNames_filterStage {source p : Plan} {filter : Option ConditionGroup}
    {types : ColumnTypes} (h : filterStage source filter types = .ok p) :
    p.tableNames = source.tableNames := by
  unfold filterStage at h
  split at h
  next =>
    cases h
    rfl
  next =>
    split at h
    · cases h
      rfl
    · contradiction

theorem tableNames_finalStages (source : Plan) (q : Query) (distinctOn : Option (List String))
    (orderBy : Option SortKey) :
    (finalStages source q distinctOn orderBy).tableNames = source.tableNames :=
  finalStages_induction (P := fun p => p.tableNames = source.tableNames) rfl
    (fun _ _ h => h) (fun _ _ h => h) (fun _ _ h => h) (fun _ _ h => h) q distinctOn orderBy

theorem tableNames_resultStages {source p : Plan} {q : Query} {types : ColumnTypes}
    (h : resultStages q source types = .ok p) : p.tableNames = source.tableNames := by
  unfold resultStages at h
  split at h
  next =>
    split at h
    next =>
      split at h
      · contradiction
      · cases h
        rfl
    next => split at h <;> cases h <;> exact tableNames_finalStages _ _ _ _
  next => split at h <;> cases h <;> exact tableNames_finalStages _ _ _ _

/-- The plan of a query looks up the tables that the query's names find, in their order, by the
names of their schemas. -/
theorem plannedAs_of_ofQuery {q : Query} {p : Plan} (h : ofQuery c q = .ok p) :
    List.Forall₂ (PlannedAs c) q.tableNames p.tableNames := by
  obtain ⟨source, types, filtered, hstages, hfilter, -, hresult⟩ := ofQuery_eq_ok h
  rw [tableNames_resultStages hresult, tableNames_filterStage hfilter]
  exact plannedAs_of_sourceStages hstages

end Plan

/-- **A query reads the tables that it names**, and answers the same where these are the same. -/
theorem Query.answer_congr {c c' : Catalog} {q : Query} (hc : c.Valid) (hc' : c'.Valid)
    (hfind : ∀ name ∈ q.tableNames, c'.find name = c.find name) : q.answer c' = q.answer c := by
  unfold answer
  rw [Plan.ofQuery_congr hfind]
  cases hplan : Plan.ofQuery c q with
  | error e => rfl
  | ok p =>
      have hrun : (p.run c').1 = (p.run c).1 := by
        refine (Plan.onlyReads_ofQuery hplan).run_congr fun name hname => ?_
        obtain ⟨given, hgiven, t, ht, rfl⟩ :=
          exists_mem_of_forall₂ (Plan.plannedAs_of_ofQuery hplan) hname
        rw [hc.find_schema_name ht, hc'.find_schema_name ((hfind given hgiven).trans ht)]
      rw [ok_bind, ok_bind, hrun]

end RelStore
