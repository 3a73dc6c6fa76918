import RelStore.Proofs.Store.Valid
import RelStore.Session

/-!
# What carrying out a statement can amount to

`Execution c sql answer c'` lists the ways in which a text can be carried out on a
catalog: it fails and leaves the catalog, it selects rows and leaves the catalog,
or it makes one of the four changes and puts the changed table under the name it
was found by.  `execution` says that these are all.

Everything proved about sessions starts from this list, so the plan and its run
are taken apart here only.  A selection leaves the catalog alone because its plan
has only stages that read (`Plan.OnlyReads`).
-/

namespace RelStore

theorem Outcome.relation_eq_ok_iff {o : Outcome} {r : Relation} :
    o.relation = .ok r ↔ o = .rows r := by
  cases o <;> simp [relation]

/-! ## Plans that only read -/

namespace Plan

/-- No stage declares or changes a table. -/
def OnlyReads : Plan → Prop
  | createTable _ => False
  | insert _ _ _ => False
  | update _ _ _ => False
  | delete _ _ => False
  | scan _ => True
  | join source _ _ _ _ _ => source.OnlyReads
  | filter source _ _ => source.OnlyReads
  | group source _ _ _ _ => source.OnlyReads
  | distinct source _ => source.OnlyReads
  | sort source _ => source.OnlyReads
  | skip source _ => source.OnlyReads
  | take source _ => source.OnlyReads
  | project source _ => source.OnlyReads

theorem andThen_eq_ok {result : Except Error Outcome × Catalog}
    {stage : Catalog → Relation → Except Error Relation} {o : Outcome}
    (h : (andThen result stage).1 = .ok o) : ∃ r, o = .rows r := by
  unfold andThen at h
  obtain ⟨_, -, h⟩ := bind_eq_ok_iff.mp h
  obtain ⟨_, -, h⟩ := bind_eq_ok_iff.mp h
  obtain ⟨r, -, h⟩ := bind_eq_ok_iff.mp h
  cases h
  exact ⟨r, rfl⟩

/-- A stage makes a relation of the rows that its source answers. -/
theorem andThen_eq_ok_iff {result : Except Error Outcome × Catalog}
    {stage : Catalog → Relation → Except Error Relation} {r' : Relation} :
    (andThen result stage).1 = .ok (.rows r') ↔
      ∃ r, result.1 = .ok (.rows r) ∧ stage result.2 r = .ok r' := by
  constructor
  · intro h
    obtain ⟨o, ho, h⟩ := bind_eq_ok_iff.mp h
    obtain ⟨r, hr, h⟩ := bind_eq_ok_iff.mp h
    obtain ⟨r'', hstage, h⟩ := bind_eq_ok_iff.mp h
    cases h
    exact ⟨r, Outcome.relation_eq_ok_iff.mp hr ▸ ho, hstage⟩
  · rintro ⟨r, ho, hstage⟩
    refine bind_eq_ok_iff.mpr ⟨_, ho, bind_eq_ok_iff.mpr ⟨r, rfl, ?_⟩⟩
    exact bind_eq_ok_iff.mpr ⟨r', hstage, rfl⟩

/-- A plan that only reads leaves the catalog and answers rows. -/
theorem OnlyReads.run {p : Plan} (h : p.OnlyReads) (c : Catalog) :
    (p.run c).2 = c ∧ ∀ o, (p.run c).1 = .ok o → ∃ r, o = .rows r := by
  induction p with
  | createTable _ => exact h.elim
  | insert _ _ _ => exact h.elim
  | update _ _ _ => exact h.elim
  | delete _ _ => exact h.elim
  | scan table =>
      refine ⟨rfl, fun o ho => ?_⟩
      obtain ⟨t, -, rfl⟩ := map_eq_ok_iff.mp ho
      exact ⟨_, rfl⟩
  | join source _ _ _ _ _ ih => exact ⟨(ih h).1, fun o ho => andThen_eq_ok ho⟩
  | filter source _ _ ih => exact ⟨(ih h).1, fun o ho => andThen_eq_ok ho⟩
  | group source _ _ _ _ ih => exact ⟨(ih h).1, fun o ho => andThen_eq_ok ho⟩
  | distinct source _ ih => exact ⟨(ih h).1, fun o ho => andThen_eq_ok ho⟩
  | sort source _ ih => exact ⟨(ih h).1, fun o ho => andThen_eq_ok ho⟩
  | skip source _ ih => exact ⟨(ih h).1, fun o ho => andThen_eq_ok ho⟩
  | take source _ ih => exact ⟨(ih h).1, fun o ho => andThen_eq_ok ho⟩
  | project source _ ih => exact ⟨(ih h).1, fun o ho => andThen_eq_ok ho⟩

theorem onlyReads_sourceStages {c : Catalog} {source : TableReference} {joins : List Join}
    {stage : Plan × ColumnTypes} (h : sourceStages c source joins = .ok stage) :
    stage.1.OnlyReads := by
  unfold sourceStages at h
  obtain ⟨t, -, h⟩ := bind_eq_ok_iff.mp h
  -- every join is put on top of the stages before it
  refine foldlM_invariant (fun stage => stage.1.OnlyReads) ?_
    (show OnlyReads (.scan _) from trivial) h
  intro stage join stage' hstage hjoin
  unfold joinStage at hjoin
  obtain ⟨t', -, hjoin⟩ := bind_eq_ok_iff.mp hjoin
  cases hjoin
  exact hstage

theorem onlyReads_filterStage {source p : Plan} {filter : Option ConditionGroup}
    {types : ColumnTypes} (hsource : source.OnlyReads)
    (h : filterStage source filter types = .ok p) : p.OnlyReads := by
  unfold filterStage at h
  split at h
  next =>
    cases h
    exact hsource
  next =>
    split at h
    · cases h
      exact hsource
    · contradiction

theorem onlyReads_finalStages {source : Plan} (hsource : source.OnlyReads) (q : Query)
    (distinctOn : Option (List String)) (orderBy : Option SortKey) :
    (finalStages source q distinctOn orderBy).OnlyReads := by
  unfold finalStages
  have hdistinct : (if q.distinct then distinct source distinctOn else source).OnlyReads := by
    split <;> exact hsource
  cases orderBy <;> cases q.offset <;> cases q.limit <;> exact hdistinct

/-- The stages above the filter of a query whose source has the types. -/
def resultStages (q : Query) (source : Plan) (types : ColumnTypes) : Except Error Plan :=
  match q.groupBy with
  | none =>
    if q.items.any (·.isAggregate) then
      match q.items.findSome? (·.ungroupedName?) with
      | some name => .error (.malformed (.ungroupedSelection name))
      | none => .ok (.group source [] q.items q.having types)
    else if q.items.all (· == .star) then .ok (finalStages source q none q.orderBy)
    else
      .ok (.project (finalStages source q (q.items.mapM (·.sourceName?))
        (q.orderBy.map (renameKey (sourceOfOutput? q.items)))) q.items)
  | some groupBy =>
    if q.items.all (· == .star) then .ok (finalStages source q none q.orderBy)
    else
      .ok (finalStages (.group source groupBy q.items q.having types) q none
        (q.orderBy.map (renameKey (outputOfSource? q.items))))

/-- **A query is planned from its tables up**: the scan and joins, the filter, the rest. -/
theorem ofQuery_eq_ok {c : Catalog} {q : Query} {p : Plan} (h : ofQuery c q = .ok p) :
    ∃ source types filtered, sourceStages c q.source q.joins = .ok (source, types) ∧
      filterStage source q.filter types = .ok filtered ∧
      (q.having.isSome = true → q.items.any (·.isAggregate) = true) ∧
      resultStages q filtered types = .ok p := by
  unfold ofQuery at h
  obtain ⟨⟨source, types⟩, hstages, h⟩ := bind_eq_ok_iff.mp h
  obtain ⟨filtered, hfilter, h⟩ := bind_eq_ok_iff.mp h
  refine ⟨source, types, filtered, hstages, hfilter, ?_⟩
  dsimp only at h
  split at h
  next => contradiction
  next hhaving => exact ⟨by simpa using hhaving, h⟩

theorem onlyReads_resultStages {source p : Plan} (hsource : source.OnlyReads) {q : Query}
    {types : ColumnTypes} (h : resultStages q source types = .ok p) : p.OnlyReads := by
  unfold resultStages at h
  split at h
  next =>
    split at h
    next =>
      split at h
      · contradiction
      · cases h
        exact hsource
    next => split at h <;> cases h <;> exact onlyReads_finalStages hsource _ _ _
  next groupBy _ =>
    split at h <;> cases h
    · exact onlyReads_finalStages hsource _ _ _
    · exact onlyReads_finalStages (show (group source groupBy _ _ _).OnlyReads from hsource) _ _ _

theorem onlyReads_ofQuery {c : Catalog} {q : Query} {p : Plan} (h : ofQuery c q = .ok p) :
    p.OnlyReads := by
  obtain ⟨source, types, filtered, hstages, hfilter, -, hresult⟩ := ofQuery_eq_ok h
  exact onlyReads_resultStages (onlyReads_filterStage (onlyReads_sourceStages hstages) hfilter)
    hresult

end Plan

/-! ## Changes of a catalog -/

namespace Catalog

variable {c c' : Catalog}

theorem find_eq_ok_iff {name : String} {t : Table} :
    c.find name = .ok t ↔ c.find? name = some t := by
  unfold find
  cases c.find? name <;> simp

/-- A table found is the one under the name that the given name is resolved to. -/
theorem find_eq_ok {name : String} {t : Table} (h : c.find name = .ok t) :
    ∃ key, c.resolve? name = some key ∧ c.tables.get? key = some t :=
  Option.bind_eq_some_iff.mp (find_eq_ok_iff.mp h)

theorem create_eq_ok {schema : Schema} (h : c.create schema = .ok c') :
    c.tables.get? schema.name = none ∧ c' = ⟨c.tables.insert schema.name (.empty schema)⟩ := by
  unfold create at h
  split at h
  next => contradiction
  next hfree =>
    cases h
    exact ⟨by simpa [NameMap.contains] using hfree, rfl⟩

/-- A change replaces the table that the name is resolved to, and no other. -/
theorem change_eq_ok {α : Type} {name : String} {f : Table → Except Error (α × Table)} {a : α}
    (h : c.change name f = .ok (a, c')) :
    ∃ key t t', c.resolve? name = some key ∧ c.tables.get? key = some t ∧ f t = .ok (a, t') ∧
      c' = ⟨c.tables.insert key t'⟩ := by
  unfold change at h
  obtain ⟨t, hfind, h⟩ := bind_eq_ok_iff.mp h
  obtain ⟨⟨a', t'⟩, hf, h⟩ := bind_eq_ok_iff.mp h
  cases h
  obtain ⟨key, hkey, ht⟩ := find_eq_ok hfind
  exact ⟨key, t, t', hkey, ht, hf, by simp [hkey]⟩

/-- A change is made to the table found, and put under the name that this one is under. -/
theorem change_eq_of_resolve? {α : Type} {name key : String} {t : Table}
    (hkey : c.resolve? name = some key) (ht : c.tables.get? key = some t)
    (f : Table → Except Error (α × Table)) :
    c.change name f = (f t).map fun result => (result.1, ⟨c.tables.insert key result.2⟩) := by
  have hfind : c.find name = .ok t :=
    find_eq_ok_iff.mpr (Option.bind_eq_some_iff.mpr ⟨key, hkey, ht⟩)
  unfold change
  rw [hfind, hkey, ok_bind]
  cases f t <;> rfl

end Catalog

/-! ## The list of all executions -/

/-- The schema that a declaration asks for, its key given. -/
def declaredSchema (name : String) (columns : List ColumnDefinition) (primaryKey : Option String) :
    Schema :=
  { name, columns := columns.map fun column => ⟨column.name, column.type⟩, primaryKey }

/-- The ways in which a text can be carried out on a catalog: what it answers, and the catalog
afterwards. -/
inductive Execution (c : Catalog) (sql : String) : Except Error Outcome → Catalog → Prop
  | failed (e : Error) : Execution c sql (.error e) c
  | selected {q : Query} {r : Relation} (hparse : Statement.parse sql = .ok (.select q)) :
      Execution c sql (.ok (.rows r)) c
  | created {name : String} {columns : List ColumnDefinition} {key primaryKey : Option String}
      (hparse : Statement.parse sql = .ok (.createTable name columns key))
      (hkey : Plan.declaredKey name columns key = .ok primaryKey)
      (hconsistent : (declaredSchema name columns primaryKey).Consistent)
      (hfree : c.tables.get? name = none) :
      Execution c sql (.ok (.created name))
        ⟨c.tables.insert name (.empty (declaredSchema name columns primaryKey))⟩
  | inserted {table key : String} {columns : List String} {values : List Value} {t t' : Table}
      (hparse : Statement.parse sql = .ok (.insert table columns values))
      (hkey : c.resolve? table = some key) (htable : c.tables.get? key = some t)
      (hinsert : t.insert columns values = .ok t') :
      Execution c sql (.ok (.inserted 1)) ⟨c.tables.insert key t'⟩
  | updated {table key : String} {assignments : NameMap Value} {test : Option EqualityTest}
      {count : Nat} {t t' : Table}
      (hparse : Statement.parse sql = .ok (.update table assignments test))
      (hkey : c.resolve? table = some key) (htable : c.tables.get? key = some t)
      (hupdate : t.update assignments test = .ok (count, t')) :
      Execution c sql (.ok (.updated count (.ofTable t'))) ⟨c.tables.insert key t'⟩
  | deleted {table key : String} {test : EqualityTest} {count : Nat} {t t' : Table}
      (hparse : Statement.parse sql = .ok (.delete table (some test)))
      (hkey : c.resolve? table = some key) (htable : c.tables.get? key = some t)
      (hdelete : t.delete test = .ok (count, t')) :
      Execution c sql (.ok (.deleted count)) ⟨c.tables.insert key t'⟩

/-- Committing answers the error and keeps the catalog, or answers the outcome and changes it. -/
theorem commit_cases (c : Catalog) (result : Except Error (Outcome × Catalog)) :
    (∃ e, Plan.commit c result = (.error e, c)) ∨
      ∃ o c', result = .ok (o, c') ∧ Plan.commit c result = (.ok o, c') := by
  cases result with
  | error e => exact .inl ⟨e, rfl⟩
  | ok change => exact .inr ⟨change.1, change.2, rfl, rfl⟩

/-- What holds of failing, and of replacing the table found by the one that the change makes of it,
holds of committing the change. -/
theorem of_commit_change {c : Catalog} {name : String} {f : Table → Except Error (Outcome × Table)}
    {P : Except Error Outcome → Catalog → Prop} (hfail : ∀ e, P (.error e) c)
    (hchange : ∀ key t t' o, c.resolve? name = some key → c.tables.get? key = some t →
      f t = .ok (o, t') → P (.ok o) ⟨c.tables.insert key t'⟩) :
    P (Plan.commit c (c.change name f)).1 (Plan.commit c (c.change name f)).2 := by
  rcases commit_cases c (c.change name f) with ⟨e, hrun⟩ | ⟨o, c', hok, hrun⟩
  · rw [hrun]
    exact hfail e
  · obtain ⟨key, t, t', hresolve, htable, hf, rfl⟩ := Catalog.change_eq_ok hok
    rw [hrun]
    exact hchange key t t' o hresolve htable hf

/-- **Every text is carried out in one of the listed ways.** -/
theorem execution (c : Catalog) (sql : String) :
    Execution c sql (Session.execute c sql).1 (Session.execute c sql).2 := by
  unfold Session.execute
  cases hplan : Session.plan c sql with
  | error e => exact .failed e
  | ok plan =>
      unfold Session.plan at hplan
      obtain ⟨s, hparse, hplan⟩ := bind_eq_ok_iff.mp hplan
      cases s with
      | createTable name columns key =>
          obtain ⟨primaryKey, hkey, h⟩ := bind_eq_ok_iff.mp hplan
          cases h
          let creation := Plan.runCreate c (declaredSchema name columns primaryKey)
          show Execution c sql (Plan.commit c creation).1 (Plan.commit c creation).2
          -- the schema is checked before its name is
          rcases commit_cases c creation with ⟨e, hrun⟩ | ⟨o, c', hok, hrun⟩
          · rw [hrun]
            exact .failed e
          · obtain ⟨_, hvalidate, hok⟩ := bind_eq_ok_iff.mp hok
            obtain ⟨_, hcreate, hok⟩ := bind_eq_ok_iff.mp hok
            cases hok
            obtain ⟨hfree, rfl⟩ := Catalog.create_eq_ok hcreate
            rw [hrun]
            exact .created hparse hkey (Schema.validate_eq_ok_iff.mp hvalidate) hfree
      | insert table columns values =>
          cases hplan
          refine of_commit_change .failed ?_
          intro key t t' o hresolve htable hchange
          obtain ⟨_, hinsert, hchange⟩ := bind_eq_ok_iff.mp hchange
          cases hchange
          exact .inserted hparse hresolve htable hinsert
      | update table assignments test =>
          cases hplan
          refine of_commit_change .failed ?_
          intro key t t' o hresolve htable hchange
          obtain ⟨_, hupdate, hchange⟩ := bind_eq_ok_iff.mp hchange
          cases hchange
          exact .updated hparse hresolve htable hupdate
      | delete table test =>
          cases test with
          | none => cases hplan
          | some test =>
              cases hplan
              refine of_commit_change .failed ?_
              intro key t t' o hresolve htable hchange
              obtain ⟨_, hdelete, hchange⟩ := bind_eq_ok_iff.mp hchange
              cases hchange
              exact .deleted hparse hresolve htable hdelete
      | select q =>
          -- the plan of a query only reads, so its run ends with the catalog it began with
          obtain ⟨hcatalog, hrows⟩ := (Plan.onlyReads_ofQuery hplan).run c
          show Execution c sql (plan.run c).1 (plan.run c).2
          rw [hcatalog]
          cases hanswer : (plan.run c).1 with
          | error e => exact .failed e
          | ok o =>
              obtain ⟨r, rfl⟩ := hrows o hanswer
              exact .selected hparse

end RelStore
