import RelStore.Proofs.Grammar.WellFormed
import RelStore.Proofs.Relation.Failure
import RelStore.Proofs.Session.Execution

/-!
# Proper plans

A proper plan asks of no stage what the stage cannot do.

| stage | what is asked of it |
| --- | --- |
| insertion | as many values as columns |
| filter | conditions on columns only |
| grouping | calls of functions other than counting over a column only |
| projection | no aggregates |
| any stage on a source | a source that answers rows |

The planner makes proper plans of well-formed statements, and a proper plan never fails internally,
whatever catalog it is run on.
-/

namespace RelStore

namespace Plan

/-- No stage is asked for what it cannot do. -/
def Proper : Plan → Prop
  | createTable _ => True
  | insert _ columns values => columns.length = values.length
  | update _ _ _ => True
  | delete _ _ => True
  | scan _ => True
  | join source _ _ _ _ _ => source.OnlyReads ∧ source.Proper
  | filter source conditions _ =>
    source.OnlyReads ∧ source.Proper ∧ ∀ c ∈ conditions.conditions, c.operand.call? = none
  | group source _ items having _ =>
    source.OnlyReads ∧ source.Proper ∧ ∀ call, Calls items having call → call.Computable
  | distinct source _ => source.OnlyReads ∧ source.Proper
  | sort source _ => source.OnlyReads ∧ source.Proper
  | skip source _ => source.OnlyReads ∧ source.Proper
  | take source _ => source.OnlyReads ∧ source.Proper
  | project source items =>
    source.OnlyReads ∧ source.Proper ∧ ∀ item ∈ items, item.call? = none

/-! ## Running -/

theorem failsOnly_commit {E : Error → Prop} (c : Catalog)
    {result : Except Error (Outcome × Catalog)} (h : FailsOnly E result) :
    FailsOnly E (commit c result).1 := by
  cases result with
  | error e => exact h.of_eq_error rfl
  | ok change => exact failsOnly_ok _

theorem neverInternal_commit (c : Catalog) {result : Except Error (Outcome × Catalog)}
    (h : NeverInternal result) : NeverInternal (commit c result).1 :=
  neverInternal_iff.mpr (failsOnly_commit c (neverInternal_iff.mp h))

/-- A stage is given rows by a source that only reads, and the catalog as it was. -/
theorem OnlyReads.failsOnly_andThen {E : Error → Prop} {source : Plan} (hsource : source.OnlyReads)
    {c : Catalog} (h : FailsOnly E (source.run c).1)
    {stage : Catalog → Relation → Except Error Relation}
    (hstage : ∀ r, (source.run c).1 = .ok (.rows r) → FailsOnly E (stage c r)) :
    FailsOnly E (andThen (source.run c) stage).1 := by
  refine failsOnly_bind h fun o ho => ?_
  obtain ⟨r, rfl⟩ := (hsource.run c).2 o ho
  refine failsOnly_bind (failsOnly_ok r) fun r' hr' => ?_
  cases hr'
  rw [(hsource.run c).1]
  exact failsOnly_bind (hstage r ho) fun _ _ => failsOnly_ok _

theorem OnlyReads.neverInternal_andThen {source : Plan} (hsource : source.OnlyReads) {c : Catalog}
    (h : NeverInternal (source.run c).1) {stage : Catalog → Relation → Except Error Relation}
    (hstage : ∀ c r, NeverInternal (stage c r)) :
    NeverInternal (andThen (source.run c) stage).1 :=
  neverInternal_iff.mpr (hsource.failsOnly_andThen (neverInternal_iff.mp h)
    fun r _ => neverInternal_iff.mp (hstage c r))

/-- **A proper plan never fails internally.** -/
theorem Proper.neverInternal_run {p : Plan} (h : p.Proper) (c : Catalog) :
    NeverInternal (p.run c).1 := by
  induction p with
  | createTable schema =>
      refine neverInternal_commit c (neverInternal_bind schema.neverInternal_validate fun _ _ => ?_)
      exact neverInternal_bind (c.neverInternal_create schema) fun _ _ => neverInternal_ok _
  | insert table columns values =>
      refine neverInternal_commit c (c.neverInternal_change table fun t => ?_)
      exact neverInternal_bind (t.neverInternal_insert h) fun _ _ => neverInternal_ok _
  | update table assignments test =>
      refine neverInternal_commit c (c.neverInternal_change table fun t => ?_)
      exact neverInternal_bind (t.neverInternal_update assignments test) fun _ _ =>
        neverInternal_ok _
  | delete table test =>
      refine neverInternal_commit c (c.neverInternal_change table fun t => ?_)
      exact neverInternal_bind (t.neverInternal_delete test) fun _ _ => neverInternal_ok _
  | scan table => exact neverInternal_map _ (c.neverInternal_find table)
  | join source table kind left right qualifier ih =>
      refine h.1.neverInternal_andThen (ih h.2) fun c r => ?_
      refine neverInternal_bind (c.neverInternal_find table) fun t _ => ?_
      exact r.neverInternal_join t kind left right qualifier
  | filter source conditions types ih =>
      exact h.1.neverInternal_andThen (ih h.2.1) fun _ r => r.neverInternal_filter h.2.2 types
  | group source groupBy items having types ih =>
      refine h.1.neverInternal_andThen (ih h.2.1) fun _ r => ?_
      exact r.neverInternal_group groupBy h.2.2 types
  | distinct source columns ih =>
      exact h.1.neverInternal_andThen (ih h.2) fun _ r => r.neverInternal_distinct columns
  | sort source key ih =>
      exact h.1.neverInternal_andThen (ih h.2) fun _ r => r.neverInternal_sort key
  | skip source count ih => exact h.1.neverInternal_andThen (ih h.2) fun _ _ => neverInternal_ok _
  | take source count ih => exact h.1.neverInternal_andThen (ih h.2) fun _ _ => neverInternal_ok _
  | project source items ih =>
      exact h.1.neverInternal_andThen (ih h.2.1) fun _ r => r.neverInternal_project h.2.2

/-! ## Planning -/

theorem proper_sourceStages {c : Catalog} {source : TableReference} {joins : List Join}
    {stage : Plan × ColumnTypes} (h : sourceStages c source joins = .ok stage) :
    stage.1.Proper := by
  have hscan : ∀ name, (scan name).OnlyReads ∧ (scan name).Proper := fun _ => ⟨trivial, trivial⟩
  unfold sourceStages at h
  obtain ⟨t, -, h⟩ := bind_eq_ok_iff.mp h
  refine (foldlM_invariant (fun stage => stage.1.OnlyReads ∧ stage.1.Proper) ?_
    (hscan t.schema.name) h).2
  intro stage join stage' hstage hjoin
  unfold joinStage at hjoin
  obtain ⟨t', -, hjoin⟩ := bind_eq_ok_iff.mp hjoin
  cases hjoin
  exact ⟨hstage.1, hstage⟩

theorem proper_filterStage {source p : Plan} {filter : Option ConditionGroup} {types : ColumnTypes}
    (hreads : source.OnlyReads) (hproper : source.Proper)
    (h : filterStage source filter types = .ok p) : p.Proper := by
  unfold filterStage at h
  split at h
  next =>
    cases h
    exact hproper
  next conditions =>
    split at h
    next hcolumns =>
      cases h
      refine ⟨hreads, hproper, fun c hc => ?_⟩
      have hcolumn := List.all_eq_true.mp hcolumns c hc
      cases hoperand : c.operand with
      | column name => rfl
      | aggregate call => simp [hoperand] at hcolumn
    next => contradiction

/-- What each of the stages keeps that make rows distinct, sort them and cut them, these keep
together. -/
theorem finalStages_induction {P : Plan → Prop} {source : Plan} (hsource : P source)
    (hdistinct : ∀ p columns, P p → P (distinct p columns)) (hsort : ∀ p key, P p → P (sort p key))
    (hskip : ∀ p count, P p → P (skip p count)) (htake : ∀ p count, P p → P (take p count))
    (q : Query) (distinctOn : Option (List String)) (orderBy : Option SortKey) :
    P (finalStages source q distinctOn orderBy) := by
  have helim : ∀ {α : Type} (a? : Option α) (stage : α → Plan) (p : Plan), P p →
      (∀ a, P (stage a)) → P (a?.elim p stage) := by
    intro α a? stage p hp hstage
    cases a? with
    | none => exact hp
    | some a => exact hstage a
  have hfirst : P (if q.distinct then distinct source distinctOn else source) := by
    split
    · exact hdistinct _ _ hsource
    · exact hsource
  have hsorted := helim orderBy (sort _) _ hfirst fun key => hsort _ key hfirst
  have hskipped := helim q.offset (skip _) _ hsorted fun count => hskip _ count hsorted
  exact helim q.limit (take _) _ hskipped fun count => htake _ count hskipped

theorem proper_finalStages {source : Plan} (hreads : source.OnlyReads) (hproper : source.Proper)
    (q : Query) (distinctOn : Option (List String)) (orderBy : Option SortKey) :
    (finalStages source q distinctOn orderBy).Proper := by
  have hstages := finalStages_induction (P := fun p => p.OnlyReads ∧ p.Proper) ⟨hreads, hproper⟩
    (fun _ _ h => ⟨h.1, h⟩) (fun _ _ h => ⟨h.1, h⟩) (fun _ _ h => ⟨h.1, h⟩)
    (fun _ _ h => ⟨h.1, h⟩) q distinctOn orderBy
  exact hstages.2

/-- The calls of a query that can be spelled have a value. -/
theorem computable_of_calls {literal : Value → Prop} {q : Query} (hq : q.WellFormed literal)
    {call : Aggregate} (h : Calls q.items q.having call) : call.Computable :=
  (h.wellFormed hq.item fun group hgroup => (hq.having group hgroup).condition).eq_count

theorem proper_resultStages {literal : Value → Prop} {q : Query} (hq : q.WellFormed literal)
    {source p : Plan} (hreads : source.OnlyReads) (hproper : source.Proper) {types : ColumnTypes}
    (h : resultStages q source types = .ok p) : p.Proper := by
  unfold resultStages at h
  split at h
  next =>
    split at h
    next =>
      split at h
      · contradiction
      · cases h
        exact ⟨hreads, hproper, fun call hcall => computable_of_calls hq hcall⟩
    next haggregates =>
      split at h <;> cases h
      · exact proper_finalStages hreads hproper _ _ _
      · refine ⟨onlyReads_finalStages hreads _ _ _, proper_finalStages hreads hproper _ _ _, ?_⟩
        intro item hitem
        cases item with
        | star => rfl
        | column name outputName => rfl
        | aggregate call outputName =>
            exact absurd (List.any_eq_true.mpr ⟨_, hitem, rfl⟩) haggregates
  next groupBy _ =>
    split at h <;> cases h
    · exact proper_finalStages hreads hproper _ _ _
    · have hgroup : (group source groupBy q.items q.having types).Proper :=
        ⟨hreads, hproper, fun call hcall => computable_of_calls hq hcall⟩
      have hgroupReads : (group source groupBy q.items q.having types).OnlyReads := hreads
      exact proper_finalStages hgroupReads hgroup _ _ _

/-- **The plan of a well-formed statement is proper.** -/
theorem proper_ofStatement {literal : Value → Prop} {s : Statement} (hs : s.WellFormed literal)
    {c : Catalog} {p : Plan} (h : ofStatement c s = .ok p) : p.Proper := by
  cases s with
  | createTable name columns key =>
      obtain ⟨primaryKey, -, h⟩ := bind_eq_ok_iff.mp h
      cases h
      trivial
  | insert table columns values =>
      cases h
      obtain ⟨-, -, -, -, hlength, -⟩ := hs
      exact hlength
  | update table assignments test =>
      cases h
      trivial
  | delete table test =>
      cases test with
      | none => contradiction
      | some test =>
          cases h
          trivial
  | select q =>
      obtain ⟨source, types, filtered, hstages, hfilter, -, hresult⟩ := ofQuery_eq_ok h
      have hreads := onlyReads_sourceStages hstages
      refine proper_resultStages hs (onlyReads_filterStage hreads hfilter) ?_ hresult
      exact proper_filterStage hreads (proper_sourceStages hstages) hfilter

theorem neverInternal_sourceStages (c : Catalog) (source : TableReference) (joins : List Join) :
    NeverInternal (sourceStages c source joins) := by
  refine neverInternal_bind (c.neverInternal_find _) fun t _ => ?_
  refine neverInternal_foldlM (fun stage join _ => ?_) _
  exact neverInternal_bind (c.neverInternal_find _) fun _ _ => neverInternal_ok _

theorem neverInternal_ofQuery (c : Catalog) (q : Query) : NeverInternal (ofQuery c q) := by
  have hfilter : ∀ source types, NeverInternal (filterStage source q.filter types) := by
    intro source types
    unfold filterStage
    split
    · exact neverInternal_ok _
    · split
      · exact neverInternal_ok _
      · exact neverInternal_error nofun
  have hresult : ∀ source types, NeverInternal (resultStages q source types) := by
    intro source types
    unfold resultStages
    split
    · split
      · split
        · exact neverInternal_error nofun
        · exact neverInternal_ok _
      · split <;> exact neverInternal_ok _
    · split <;> exact neverInternal_ok _
  refine neverInternal_bind (neverInternal_sourceStages c _ _) fun stage _ => ?_
  refine neverInternal_bind (hfilter _ _) fun filtered _ => ?_
  dsimp only
  split
  · exact neverInternal_error nofun
  · exact hresult filtered stage.2

/-- A statement that cannot be planned is refused with an error of its own. -/
theorem neverInternal_ofStatement (c : Catalog) (s : Statement) :
    NeverInternal (ofStatement c s) := by
  cases s with
  | createTable name columns key =>
      refine neverInternal_bind ?_ fun _ _ => neverInternal_ok _
      unfold declaredKey
      split
      · exact neverInternal_ok _
      · exact neverInternal_ok _
      · exact neverInternal_error nofun
  | insert table columns values => exact neverInternal_ok _
  | update table assignments test => exact neverInternal_ok _
  | delete table test =>
      cases test with
      | none => exact neverInternal_error nofun
      | some test => exact neverInternal_ok _
  | select q => exact neverInternal_ofQuery c q

end Plan

end RelStore
