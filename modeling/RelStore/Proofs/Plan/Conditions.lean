import RelStore.Proofs.Plan.Filtered

/-!
# Groups of conditions

A filter binds each condition of its group before it judges a row: to the position of its column,
and to its literal cast for that column.  Neither looks at the rows or at the other conditions.  So
a condition that can be bound alone can be bound in every group and at every place in a row of
filters, and what it says of a row is the same each time (`Condition.keeps`).

| conditions | rows of the source that are kept |
| --- | --- |
| under `and` | those that each condition alone keeps |
| under `or` | those that some condition alone keeps |
| one filter after another | those that each condition alone keeps |

None of the three depends on the order of the conditions, or on how often one is written.
-/

namespace RelStore

/-! ## Conditions bound by themselves -/

namespace Condition

/-- The condition can be bound to the columns. -/
def Binds (c : Condition) (columns : List String) (types : ColumnTypes) : Prop :=
  ∃ bound, Relation.bindCondition columns types c = .ok bound

/-- Whether the condition, bound to the columns, holds of a row. -/
def keeps (c : Condition) (columns : List String) (types : ColumnTypes) (row : Row) : Bool :=
  match Relation.bindCondition columns types c with
  | .ok bound => bound.holds row
  | .error _ => false

theorem keeps_of_bindCondition {c : Condition} {columns : List String} {types : ColumnTypes}
    {bound : BoundCondition} (h : Relation.bindCondition columns types c = .ok bound) (row : Row) :
    c.keeps columns types row = bound.holds row := by
  unfold keeps
  rw [h]

end Condition

/-- What a connective makes of judgements depends on which there are only. -/
theorem Connective.combine_map_congr (connective : Connective)
    {conditions conditions' : List Condition} (h : ∀ c, c ∈ conditions' ↔ c ∈ conditions)
    (judge : Condition → Bool) :
    connective.combine (conditions'.map judge) = connective.combine (conditions.map judge) := by
  rw [Bool.eq_iff_iff]
  cases connective with
  | and => simp [combine, h]
  | or => simp [combine, h]

namespace Relation

variable {r : Relation} {connective : Connective} {conditions : List Condition}
  {types : ColumnTypes}

/-- A group whose conditions can be bound judges a row by what each of them says of it. -/
theorem filter_of_binds (h : ∀ c ∈ conditions, c.Binds r.columns types) :
    r.filter ⟨connective, conditions⟩ types = .ok { r with
      rows := r.rows.filter fun row =>
        connective.combine (conditions.map (·.keeps r.columns types row)) } := by
  obtain ⟨bounds, hbounds⟩ := exists_forall₂ h
  have hkeeps : ∀ row, bounds.map (·.holds row) =
      conditions.map (·.keeps r.columns types row) := fun row =>
    map_eq_map_iff_forall₂.mpr
      (hbounds.flip.imp fun _ _ hbound => (Condition.keeps_of_bindCondition hbound row).symm)
  unfold filter
  rw [mapM_eq_ok_iff.mpr hbounds, ok_bind]
  simp only [hkeeps]
  rfl

/-- **A group filters just if each of its conditions can be bound**, whatever joins them. -/
theorem exists_filter_iff :
    (∃ filtered, r.filter ⟨connective, conditions⟩ types = .ok filtered) ↔
      ∀ c ∈ conditions, c.Binds r.columns types := by
  constructor
  · rintro ⟨filtered, h⟩ c hc
    obtain ⟨bounds, hbounds, -⟩ := bind_eq_ok_iff.mp h
    obtain ⟨bound, -, hbound⟩ := exists_mem_of_forall₂ (mapM_eq_ok_iff.mp hbounds).flip hc
    exact ⟨bound, hbound⟩
  · exact fun h => ⟨_, filter_of_binds h⟩

/-- A single condition keeps the rows that it holds of. -/
theorem filter_of_binds_single {c : Condition} (h : c.Binds r.columns types) :
    r.filter ⟨.and, [c]⟩ types =
      .ok { r with rows := r.rows.filter (c.keeps r.columns types) } := by
  rw [filter_of_binds (List.forall_mem_singleton.mpr h)]
  simp [Connective.combine]

/-- **Filters one after another keep the rows that every one of them keeps.** -/
theorem foldlM_filter (h : ∀ c ∈ conditions, c.Binds r.columns types) :
    conditions.foldlM (fun r c => r.filter ⟨.and, [c]⟩ types) r =
      .ok { r with rows := r.rows.filter fun row =>
        conditions.all (·.keeps r.columns types row) } := by
  induction conditions generalizing r with
  | nil => simp [pure, Except.pure]
  | cons c conditions ih =>
      obtain ⟨hc, hrest⟩ := List.forall_mem_cons.mp h
      -- the columns stay, so the other conditions are bound as before
      rw [List.foldlM_cons, filter_of_binds_single hc, ok_bind]
      refine (ih (r := { r with rows := r.rows.filter (c.keeps r.columns types) }) hrest).trans ?_
      simp [List.filter_filter, Bool.and_comm]

end Relation

/-! ## The queries -/

namespace Query

/-- The query for the rows that conditions under one connective let pass. -/
def conditionsQuery (source : TableReference) (joins : List Join) (connective : Connective)
    (conditions : List Condition) : Query :=
  { rowsQuery source (some ⟨connective, conditions⟩) with joins }

variable {c : Catalog} {source : TableReference} {joins : List Join} {conditions : List Condition}

/-- Conditions on columns filter the joined tables. -/
theorem answer_conditionsQuery_eq
    (hcolumns : ∀ condition ∈ conditions, ∃ name, condition.operand = .column name)
    (connective : Connective) :
    (conditionsQuery source joins connective conditions).answer c =
      Plan.sourceStages c source joins >>= fun stage =>
        stage.1.rows c >>= fun r => r.filter ⟨connective, conditions⟩ stage.2 := by
  refine answer_filtered (List.all_eq_true.mpr fun condition hcondition => ?_)
  obtain ⟨name, hname⟩ := hcolumns condition hcondition
  rw [hname]

/-- On tables that can be joined, conditions that can be bound are answered by what each of them
says of a row. -/
theorem answer_conditionsQuery_of_binds {stage : Plan} {types : ColumnTypes} {all : Relation}
    (hcolumns : ∀ condition ∈ conditions, ∃ name, condition.operand = .column name)
    (hstages : Plan.sourceStages c source joins = .ok (stage, types))
    (hall : stage.rows c = .ok all)
    (hbinds : ∀ condition ∈ conditions, condition.Binds all.columns types)
    (connective : Connective) {others : List Condition}
    (hothers : ∀ condition ∈ others, condition ∈ conditions) :
    (conditionsQuery source joins connective others).answer c =
      .ok { all with rows := all.rows.filter fun row =>
        connective.combine (others.map (·.keeps all.columns types row)) } := by
  rw [answer_conditionsQuery_eq fun condition h => hcolumns condition (hothers condition h),
    hstages, ok_bind, hall, ok_bind]
  exact Relation.filter_of_binds fun condition h => hbinds condition (hothers condition h)

/-- A query with conditions succeeds just if the tables can be joined and each condition can be
bound to their columns. -/
theorem exists_answer_conditionsQuery_iff
    (hcolumns : ∀ condition ∈ conditions, ∃ name, condition.operand = .column name)
    (connective : Connective) :
    (∃ r, (conditionsQuery source joins connective conditions).answer c = .ok r) ↔
      ∃ stage types all, Plan.sourceStages c source joins = .ok (stage, types) ∧
        stage.rows c = .ok all ∧ ∀ condition ∈ conditions, condition.Binds all.columns types := by
  constructor
  · rintro ⟨r, hr⟩
    rw [answer_conditionsQuery_eq hcolumns] at hr
    obtain ⟨⟨stage, types⟩, hstages, hr⟩ := bind_eq_ok_iff.mp hr
    obtain ⟨all, hall, hfilter⟩ := bind_eq_ok_iff.mp hr
    exact ⟨stage, types, all, hstages, hall, Relation.exists_filter_iff.mp ⟨r, hfilter⟩⟩
  · rintro ⟨stage, types, all, hstages, hall, hbinds⟩
    exact ⟨_, answer_conditionsQuery_of_binds hcolumns hstages hall hbinds connective fun _ h => h⟩

/-- The queries with single conditions succeed just if the tables can be joined and each condition
can be bound to their columns. -/
theorem exists_answer_singles_iff (hne : conditions ≠ [])
    (hcolumns : ∀ condition ∈ conditions, ∃ name, condition.operand = .column name) :
    (∀ condition ∈ conditions,
        ∃ r, (conditionsQuery source joins .and [condition]).answer c = .ok r) ↔
      ∃ stage types all, Plan.sourceStages c source joins = .ok (stage, types) ∧
        stage.rows c = .ok all ∧ ∀ condition ∈ conditions, condition.Binds all.columns types := by
  have hsingle : ∀ condition ∈ conditions,
      (∃ r, (conditionsQuery source joins .and [condition]).answer c = .ok r) ↔
        ∃ stage types all, Plan.sourceStages c source joins = .ok (stage, types) ∧
          stage.rows c = .ok all ∧ condition.Binds all.columns types := by
    intro condition hcondition
    simpa using @exists_answer_conditionsQuery_iff c source joins [condition]
      (List.forall_mem_singleton.mpr (hcolumns condition hcondition)) .and
  constructor
  · intro h
    obtain ⟨first, hfirst⟩ := List.exists_mem_of_ne_nil conditions hne
    obtain ⟨stage, types, all, hstages, hall, -⟩ := (hsingle first hfirst).mp (h first hfirst)
    refine ⟨stage, types, all, hstages, hall, fun condition hcondition => ?_⟩
    -- the others are answered on the same tables
    obtain ⟨stage', types', all', hstages', hall', hbinds⟩ :=
      (hsingle condition hcondition).mp (h condition hcondition)
    cases hstages.symm.trans hstages'
    cases hall.symm.trans hall'
    exact hbinds
  · rintro ⟨stage, types, all, hstages, hall, hbinds⟩ condition hcondition
    exact (hsingle condition hcondition).mpr
      ⟨stage, types, all, hstages, hall, hbinds condition hcondition⟩

/-- **Conditions compose.**  On any catalog, let conditions on columns, at least one, be asked of
the rows of tables that are joined.  The query with all of them, under either connective, succeeds
just if the query with each one of them does.  These then select rows of the joined tables such that

* under `or` the rows that at least one of the queries selects are answered, in their order;
* under `and` the rows that are left when the conditions filter one after another are answered, in
  whatever order, and however often, each of them does;
* the same conditions in another order, or written more often, are answered alike. -/
theorem answer_conditionsQuery (c : Catalog) (source : TableReference) (joins : List Join)
    {conditions : List Condition} (hne : conditions ≠ [])
    (hcolumns : ∀ condition ∈ conditions, ∃ name, condition.operand = .column name) :
    let answer (connective : Connective) (conditions : List Condition) : Except Error Relation :=
      (conditionsQuery source joins connective conditions).answer c
    (∀ connective, (∃ r, answer connective conditions = .ok r) ↔
      ∀ condition ∈ conditions, ∃ r, answer .and [condition] = .ok r) ∧
    ((∀ condition ∈ conditions, ∃ r, answer .and [condition] = .ok r) →
      ∃ stage types all, ∃ selected : Condition → Row → Bool,
        Plan.sourceStages c source joins = .ok (stage, types) ∧
        ({ rowsQuery source none with joins } : Query).answer c = .ok all ∧
        (∀ condition ∈ conditions, answer .and [condition] =
          .ok { all with rows := all.rows.filter (selected condition) }) ∧
        answer .or conditions =
          .ok { all with rows := all.rows.filter fun row => conditions.any (selected · row) } ∧
        ∀ others, (∀ condition, condition ∈ others ↔ condition ∈ conditions) →
          answer .and conditions =
            others.foldlM (fun r condition => r.filter ⟨.and, [condition]⟩ types) all ∧
          ∀ connective, answer connective others = answer connective conditions) := by
  intro answer
  have hone : (∀ condition ∈ conditions, ∃ r, answer .and [condition] = .ok r) ↔
      ∃ stage types all, Plan.sourceStages c source joins = .ok (stage, types) ∧
        stage.rows c = .ok all ∧ ∀ condition ∈ conditions, condition.Binds all.columns types :=
    exists_answer_singles_iff hne hcolumns
  constructor
  · exact fun connective => (exists_answer_conditionsQuery_iff hcolumns connective).trans hone.symm
  · intro h
    obtain ⟨stage, types, all, hstages, hall, hbinds⟩ := hone.mp h
    have hanswer : ∀ connective others, (∀ condition ∈ others, condition ∈ conditions) →
        answer connective others = .ok { all with
          rows := all.rows.filter fun row =>
            connective.combine (others.map (·.keeps all.columns types row)) } :=
      fun connective others =>
        answer_conditionsQuery_of_binds hcolumns hstages hall hbinds connective
    refine ⟨stage, types, all, (·.keeps all.columns types), hstages, ?_, ?_, ?_, ?_⟩
    · exact answer_joined.trans (by rw [hstages]; exact hall)
    · intro condition hcondition
      rw [hanswer _ _ (List.forall_mem_singleton.mpr hcondition)]
      simp [Connective.combine]
    · rw [hanswer _ _ fun _ h => h]
      simp [Connective.combine]
    · intro others hothers
      have hsub : ∀ condition ∈ others, condition ∈ conditions := fun condition =>
        (hothers condition).mp
      have hcongr : ∀ connective, answer connective others = answer connective conditions := by
        intro connective
        rw [hanswer connective others hsub, hanswer connective conditions fun _ h => h]
        simp only [connective.combine_map_congr hothers]
      refine ⟨?_, hcongr⟩
      rw [← hcongr .and, hanswer .and others hsub,
        Relation.foldlM_filter fun condition h => hbinds condition (hsub condition h)]
      simp [Connective.combine]

/-- Two conditions on a join that keeps its left side, one with a text for an integer and one with a
null. -/
theorem answer_conditionsQuery_left_join :
    let c := (Session.executeAll ∅ ["CREATE TABLE t (a INT, b TEXT)",
      "INSERT INTO t (a, b) VALUES (1, null)", "INSERT INTO t (a, b) VALUES (2, 'x')",
      "INSERT INTO t (a, b) VALUES (3, null)", "CREATE TABLE u (k INT)",
      "INSERT INTO u (k) VALUES (3)", "INSERT INTO u (k) VALUES (2)"]).2
    let late : Condition := ⟨.column "a", .greaterOrEqual, .text " 2"⟩
    let blank : Condition := ⟨.column "b", .equal, .null⟩
    let answer (connective : Connective) (conditions : List Condition) : Except Error Relation :=
      (conditionsQuery ⟨"t", none⟩ [⟨"u", .left, "a", "k", "t", "u"⟩] connective
        conditions).answer c
    let columns := ["a", "b", "u.k"]
    let rows : List Row := [[.integer 1, .null, .null], [.integer 2, .text "x", .integer 2],
      [.integer 3, .null, .integer 3]]
    answer .and [late] = .ok ⟨columns, rows.drop 1⟩ ∧
      answer .and [blank] = .ok ⟨columns, rows.eraseIdx 1⟩ ∧
      (∃ selected : Condition → Row → Bool,
        answer .and [late] = .ok ⟨columns, rows.filter (selected late)⟩ ∧
        answer .or [late, blank] =
          .ok ⟨columns, rows.filter fun row => [late, blank].any (selected · row)⟩) ∧
      ∀ connective, answer connective [blank, late, blank] = answer connective [late, blank] := by
  intro c late blank answer columns rows
  have hc : c = ⟨.ofList [
      ("t", ⟨⟨"t", [⟨"a", .integer⟩, ⟨"b", .text⟩], none⟩,
        [[.integer 1, .null], [.integer 2, .text "x"], [.integer 3, .null]]⟩),
      ("u", ⟨⟨"u", [⟨"k", .integer⟩], none⟩, [[.integer 3], [.integer 2]]⟩)]⟩ := by decide +kernel
  have hlate : answer .and [late] = .ok ⟨columns, rows.drop 1⟩ := by
    show Query.answer c _ = _
    rw [hc]
    decide +kernel
  have hblank : answer .and [blank] = .ok ⟨columns, rows.eraseIdx 1⟩ := by
    show Query.answer c _ = _
    rw [hc]
    decide +kernel
  have hrows : ({ rowsQuery ⟨"t", none⟩ none with joins := [⟨"u", .left, "a", "k", "t", "u"⟩] } :
      Query).answer c = .ok ⟨columns, rows⟩ := by
    rw [hc]
    decide +kernel
  obtain ⟨-, h⟩ := @answer_conditionsQuery c ⟨"t", none⟩ [⟨"u", .left, "a", "k", "t", "u"⟩]
    [late, blank] (by decide) (by simp [late, blank])
  obtain ⟨_, _, all, selected, -, hall, hsingles, hor, hothers⟩ :=
    h (by simpa using ⟨⟨_, hlate⟩, ⟨_, hblank⟩⟩)
  cases hall.symm.trans hrows
  exact ⟨hlate, hblank, ⟨selected, hsingles late (by simp), hor⟩,
    (hothers [blank, late, blank] (by simp [or_comm])).2⟩

end Query

end RelStore
