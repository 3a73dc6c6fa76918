import RelStore.Proofs.Session.Execution

/-!
# What a query answers

A query that does not aggregate everything is carried out in two halves.  Its tables are joined and
the rows selected that its conditions let pass (`Query.Selects`); then these are presented
(`Query.present`): grouped, if it is a grouped query, made distinct, sorted, cut, and projected to
the columns selected, if the grouping has not done that.

| query | grouped | distinct on | sorted by | projected |
| --- | --- | --- | --- | --- |
| only stars | no | all columns | as written | no |
| grouped | yes | all columns | names of the result | no |
| other | no | selected columns | names of the source | yes |

A query is its second half after its first, faults included (`answer_eq_bind`).  One that aggregates
everything has the same first half, and groups its rows by nothing (`answer_eq_bind_group`).  The
clauses of the second half do not reach into the first, so queries that differ in them only select
the same rows (`answer_eq_ok_iff`).
-/

namespace RelStore

/-- How the rows that are selected become the result. -/
structure Presentation where
  /-- The rows that are made distinct, sorted and cut. -/
  base : Relation → Except Error Relation
  /-- The columns that distinct rows differ in, all if none are given. -/
  distinctOn : Option (List String)
  /-- The name to sort by for a name in the query, if it is another. -/
  rename : String → Option String
  /-- The result, of the rows that are left. -/
  project : Relation → Except Error Relation

namespace Presentation

/-- The rows are the result. -/
def whole : Presentation where
  base := .ok
  distinctOn := none
  rename _ := none
  project := .ok

/-- The columns of the items are the result. -/
def projected (items : List SelectItem) : Presentation where
  base := .ok
  distinctOn := items.mapM (·.sourceName?)
  rename := sourceOfOutput? items
  project r := r.project items

/-- The groups of the rows are the result, laid out by the items. -/
def grouped (groupBy : List String) (items : List SelectItem) (having : Option ConditionGroup)
    (types : ColumnTypes) : Presentation where
  base r := r.group groupBy items having types
  distinctOn := none
  rename := outputOfSource? items
  project := .ok

end Presentation

namespace Query

/-- The rows that a query answers, planned and run on the catalog. -/
def answer (c : Catalog) (q : Query) : Except Error Relation := do
  let p ← Plan.ofQuery c q
  (← (p.run c).1).relation

/-- The query asks for aggregates over all rows at once. -/
def AggregatesAll (q : Query) : Prop :=
  q.groupBy = none ∧ q.items.any (·.isAggregate) = true

/-- The rows are those of the query's tables, joined, that its conditions let pass, and the types
are those of their columns. -/
def Selects (c : Catalog) (q : Query) (types : ColumnTypes) (r : Relation) : Prop :=
  ∃ source filtered, Plan.sourceStages c q.source q.joins = .ok (source, types) ∧
    Plan.filterStage source q.filter types = .ok filtered ∧
    (q.having.isSome = true → q.items.any (·.isAggregate) = true) ∧
    (filtered.run c).1 = .ok (.rows r)

/-- How the query presents the rows that it selects. -/
def presentation (q : Query) (types : ColumnTypes) : Presentation :=
  if q.items.all (· == .star) then .whole
  else
    match q.groupBy with
    | none => .projected q.items
    | some groupBy => .grouped groupBy q.items q.having types

/-- A grouped query that does not select stars only presents the groups. -/
theorem presentation_eq_grouped {q : Query} {groupBy : List String}
    (hgroup : q.groupBy = some groupBy) {item : SelectItem} (hitem : item ∈ q.items)
    (hne : item ≠ .star) (types : ColumnTypes) :
    q.presentation types = .grouped groupBy q.items q.having types := by
  have hstars : ¬ q.items.all (· == .star) = true := fun hstars =>
    hne (eq_of_beq (List.all_eq_true.mp hstars item hitem))
  unfold presentation
  rw [if_neg hstars, hgroup]

/-- The rows made distinct, sorted and cut as the query asks, with the names to go by. -/
def arrange (q : Query) (distinctOn : Option (List String)) (orderBy : Option SortKey)
    (r : Relation) : Except Error Relation := do
  let r ← (if q.distinct then r.distinct distinctOn else .ok r)
  let r ← orderBy.elim (.ok r) r.sort
  let r := q.offset.elim r fun count => r.skip count.toNat
  return q.limit.elim r fun count => r.take count.toNat

/-- The result of the rows that the query selects. -/
def present (q : Query) (types : ColumnTypes) (r : Relation) : Except Error Relation := do
  let p := q.presentation types
  let base ← p.base r
  p.project (← q.arrange p.distinctOn (q.orderBy.map (Plan.renameKey p.rename)) base)

theorem present_eq_ok_iff {q : Query} {types : ColumnTypes} {r result : Relation} :
    q.present types r = .ok result ↔ ∃ base arranged,
      (q.presentation types).base r = .ok base ∧
      q.arrange (q.presentation types).distinctOn
        (q.orderBy.map (Plan.renameKey (q.presentation types).rename)) base = .ok arranged ∧
      (q.presentation types).project arranged = .ok result := by
  simp only [present, bind_eq_ok_iff, exists_and_left]

end Query

namespace Plan

/-- The rows that a plan answers, run on the catalog. -/
def rows (p : Plan) (c : Catalog) : Except Error Relation := do
  (← (p.run c).1).relation

variable {c : Catalog} {q : Query}

theorem rows_eq_ok_iff {p : Plan} {r : Relation} :
    p.rows c = .ok r ↔ (p.run c).1 = .ok (.rows r) := by
  simp only [rows, bind_eq_ok_iff, Outcome.relation_eq_ok_iff, exists_eq_right]

/-- A stage makes a relation of the rows that its source answers, or fails as its source does. -/
theorem relation_andThen (result : Except Error Outcome × Catalog)
    (stage : Catalog → Relation → Except Error Relation) :
    ((andThen result stage).1 >>= Outcome.relation) =
      (result.1 >>= Outcome.relation) >>= stage result.2 := by
  unfold andThen
  simp only [bind_assoc, pure_bind]
  refine bind_congr fun o => bind_congr fun r => ?_
  exact bind_pure (stage result.2 r)

/-- **The final stages arrange what their source answers.** -/
theorem rows_finalStages (source : Plan) (q : Query) (distinctOn : Option (List String))
    (orderBy : Option SortKey) :
    (finalStages source q distinctOn orderBy).rows c =
      source.rows c >>= q.arrange distinctOn orderBy := by
  have hdistinct : (if q.distinct then Plan.distinct source distinctOn else source).rows c =
      source.rows c >>= fun r => if q.distinct then r.distinct distinctOn else .ok r := by
    split
    · exact relation_andThen _ _
    · exact (bind_pure _).symm
  have hsort : ∀ p : Plan, (orderBy.elim p (.sort p)).rows c =
      p.rows c >>= fun r => orderBy.elim (.ok r) r.sort := by
    intro p
    cases orderBy with
    | none => exact (bind_pure _).symm
    | some key => exact relation_andThen _ _
  have hskip : ∀ p : Plan, (q.offset.elim p (.skip p)).rows c =
      p.rows c >>= fun r => .ok (q.offset.elim r fun count => r.skip count.toNat) := by
    intro p
    cases q.offset with
    | none => exact (bind_pure _).symm
    | some count => exact relation_andThen _ _
  have htake : ∀ p : Plan, (q.limit.elim p (.take p)).rows c =
      p.rows c >>= fun r => .ok (q.limit.elim r fun count => r.take count.toNat) := by
    intro p
    cases q.limit with
    | none => exact (bind_pure _).symm
    | some count => exact relation_andThen _ _
  unfold finalStages Query.arrange
  simp only [htake, hskip, hsort, hdistinct, bind_assoc, ok_bind]
  rfl

/-- **The stages above the filter present what their source answers.** -/
theorem rows_resultStages (hq : ¬ q.AggregatesAll) (source : Plan) (types : ColumnTypes) :
    ∃ p, resultStages q source types = .ok p ∧
      p.rows c = source.rows c >>= q.present types := by
  unfold resultStages Query.present Query.presentation
  by_cases hstars : q.items.all (· == .star) = true
  · -- a star is no aggregate, so the rows are arranged only
    have haggregates : q.items.any (·.isAggregate) = false := by
      rw [List.any_eq_false]
      intro item hitem
      rw [eq_of_beq (List.all_eq_true.mp hstars item hitem)]
      exact Bool.false_ne_true
    have hkey : q.orderBy.map (renameKey Presentation.whole.rename) = q.orderBy := by
      cases q.orderBy <;> rfl
    refine ⟨finalStages source q none q.orderBy, ?_, ?_⟩
    · cases q.groupBy <;> simp [haggregates, hstars]
    · simp only [if_pos hstars, hkey]
      rw [rows_finalStages]
      exact bind_congr fun r => (bind_pure _).symm
  · simp only [if_neg hstars]
    cases hgroup : q.groupBy with
    | none =>
        have haggregates : ¬ q.items.any (·.isAggregate) = true := fun h => hq ⟨hgroup, h⟩
        refine ⟨_, if_neg haggregates, (relation_andThen _ _).trans ?_⟩
        show (finalStages source q _ _).rows c >>= _ = _
        rw [rows_finalStages, bind_assoc]
        rfl
    | some groupBy =>
        refine ⟨_, rfl, ?_⟩
        rw [rows_finalStages]
        show (Plan.group source groupBy q.items q.having types).rows c >>= _ = _
        rw [show (Plan.group source groupBy q.items q.having types).rows c = _ from
          relation_andThen _ _, bind_assoc]
        refine bind_congr fun r => bind_congr fun base => (bind_pure _).symm

end Plan

namespace Query

variable {c : Catalog} {q : Query} {r : Relation}

/-- Without conditions on groups, the tables and the conditions on rows select the rows. -/
theorem Selects.of_having_none {types : ColumnTypes} (h : q.Selects c types r) {q' : Query}
    (hsource : q'.source = q.source) (hjoins : q'.joins = q.joins) (hfilter : q'.filter = q.filter)
    (hhaving : q'.having = none) : q'.Selects c types r := by
  obtain ⟨source, filtered, hstages, hstage, -, hrun⟩ := h
  rw [← hsource, ← hjoins] at hstages
  rw [← hfilter] at hstage
  refine ⟨source, filtered, hstages, hstage, fun hsome => ?_, hrun⟩
  rw [hhaving] at hsome
  contradiction

/-- The rows that a query selects, and the types of their columns. -/
def select (c : Catalog) (q : Query) : Except Error (ColumnTypes × Relation) := do
  let (source, types) ← Plan.sourceStages c q.source q.joins
  let filtered ← Plan.filterStage source q.filter types
  if q.having.isSome && !q.items.any (·.isAggregate) then throw .havingRequiresAggregate
  return (types, ← filtered.rows c)

theorem select_eq_ok_iff {types : ColumnTypes} :
    q.select c = .ok (types, r) ↔ q.Selects c types r := by
  unfold select Selects
  constructor
  · intro h
    obtain ⟨⟨source, types'⟩, hstages, h⟩ := bind_eq_ok_iff.mp h
    obtain ⟨filtered, hfilter, h⟩ := bind_eq_ok_iff.mp h
    dsimp only at h
    split at h
    next => contradiction
    next hallowed =>
      obtain ⟨selected, hselected, h⟩ := bind_eq_ok_iff.mp h
      cases h
      exact ⟨source, filtered, hstages, hfilter, by simpa using hallowed,
        Plan.rows_eq_ok_iff.mp hselected⟩
  · rintro ⟨source, filtered, hstages, hfilter, hhaving, hrun⟩
    have hallowed : ¬ (q.having.isSome && !q.items.any (·.isAggregate)) = true := by
      simpa using hhaving
    rw [hstages, ok_bind]
    dsimp only
    rw [hfilter, ok_bind, if_neg hallowed, Plan.rows_eq_ok_iff.mpr hrun]
    rfl

/-- A query answers what the stages above the filter make of the rows that it selects. -/
theorem answer_eq_bind_stages {present : ColumnTypes → Relation → Except Error Relation}
    (hstages : ∀ source types, ∃ p, Plan.resultStages q source types = .ok p ∧
      p.rows c = source.rows c >>= present types) :
    q.answer c = q.select c >>= fun selected => present selected.1 selected.2 := by
  show (Plan.ofQuery c q >>= fun p => p.rows c) = _
  unfold select Plan.ofQuery
  rw [bind_assoc, bind_assoc]
  refine bind_congr fun stage => ?_
  obtain ⟨source, types⟩ := stage
  dsimp only
  rw [bind_assoc, bind_assoc]
  refine bind_congr fun filtered => ?_
  obtain ⟨p, hp, hrows⟩ := hstages filtered types
  split
  next => rfl
  next =>
    show (Plan.resultStages q filtered types >>= fun p => p.rows c) = _
    rw [hp, ok_bind, hrows]
    show _ = (filtered.rows c >>= fun r => .ok (types, r)) >>= _
    rw [bind_assoc]
    rfl

/-- **A query presents the rows that it selects**, and fails as one or the other does. -/
theorem answer_eq_bind (hq : ¬ q.AggregatesAll) :
    q.answer c = q.select c >>= fun selected => q.present selected.1 selected.2 :=
  answer_eq_bind_stages (Plan.rows_resultStages hq)

/-- **A query that aggregates everything groups the rows that it selects by nothing.** -/
theorem answer_eq_bind_group (hq : q.AggregatesAll)
    (hitems : q.items.findSome? (·.ungroupedName?) = none) :
    q.answer c = q.select c >>= fun selected =>
      selected.2.group [] q.items q.having selected.1 := by
  refine answer_eq_bind_stages fun source types =>
    ⟨.group source [] q.items q.having types, ?_, Plan.relation_andThen _ _⟩
  obtain ⟨hgroup, haggregates⟩ := hq
  unfold Plan.resultStages
  simp only [hgroup, haggregates, if_pos, hitems]

/-- A query answers what it presents of the rows that it selects. -/
theorem answer_eq_ok_iff (hq : ¬ q.AggregatesAll) :
    q.answer c = .ok r ↔ ∃ types selected, q.Selects c types selected ∧
      q.present types selected = .ok r := by
  rw [answer_eq_bind hq]
  simp only [bind_eq_ok_iff, Prod.exists, select_eq_ok_iff]

end Query

/-- A session answers a query with the rows of the query, and leaves the catalog. -/
theorem Session.execute_select {c : Catalog} {q : Query} {sql : String}
    (h : Statement.parse sql = .ok (.select q)) :
    execute c sql = ((q.answer c).map .rows, c) := by
  have hplan : plan c sql = Plan.ofQuery c q := by
    unfold plan
    rw [h]
    rfl
  unfold execute Query.answer
  rw [hplan]
  cases hquery : Plan.ofQuery c q with
  | error e => rfl
  | ok p =>
      obtain ⟨hcatalog, hrows⟩ := (Plan.onlyReads_ofQuery hquery).run c
      refine Prod.ext ?_ hcatalog
      show (p.run c).1 = _
      cases hrun : (p.run c).1 with
      | error e =>
          simp only [ok_bind, hrun]
          rfl
      | ok o =>
          obtain ⟨r, rfl⟩ := hrows o hrun
          simp only [ok_bind, hrun]
          rfl

end RelStore
