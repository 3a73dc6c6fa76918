import RelStore.Proofs.Plan.Answer
import RelStore.Proofs.Relation.Groups
import RelStore.Proofs.Relation.Having

/-!
# Conditions on the columns grouped by

A condition on a column that rows are grouped by can stand in either clause.  On groups it is bound
to the column of the result that has its name, on rows to the column of the source, and both stand
for one position and cast the literal to one type (`exists_bound_of_bindCondition`).  All rows of a
group have one value there, so the rows that a filter lets pass are those of the groups that are
kept, and the groups that are left have lost no row (`groupRows_filter`).

The filter comes before the aggregates.  A group that is not kept may be one whose aggregates have
no value, so the query with the condition on rows succeeds where the other does, and may succeed
where the other fails (`Query.answer_filter_of_having`).
-/

namespace RelStore

/-- Every condition is on a column that is selected under its own name, which no other column of the
result has.  In a grouping that succeeds such a column is grouped by. -/
def ConditionGroup.OnKeys (group : ConditionGroup) (groupBy : List String)
    (items : List SelectItem) : Prop :=
  ∀ c ∈ group.conditions, ∃ name, c.operand = .column name ∧
    .column name name ∈ laidOut groupBy items ∧ (outputNames groupBy items).count name = 1

/-- The condition on rows as one on groups. -/
def BoundCondition.onGroup (c : BoundCondition) : GroupCondition :=
  ⟨.position c.position, c.comparison, c.comparand⟩

variable {columns groupBy : List String} {types : ColumnTypes} {items : List SelectItem}
  {positions : List Nat} {g : BoundGrouping}

theorem ConditionGroup.OnKeys.onColumnsOnly {group : ConditionGroup}
    (h : group.OnKeys groupBy items) : group.onColumnsOnly = true := by
  refine List.all_eq_true.mpr fun c hc => ?_
  obtain ⟨name, hoperand, -, -⟩ := h c hc
  rw [hoperand]

/-- **A condition on a column grouped by binds on rows as it does on groups.** -/
theorem exists_bound_of_bindCondition {fields : List OutputField}
    (hlays : List.Forall₂ (Lays columns types positions) (laidOut groupBy items) fields)
    {c : Condition} {name : String} (hoperand : c.operand = .column name)
    (hitem : .column name name ∈ laidOut groupBy items)
    (hcount : (outputNames groupBy items).count name = 1) {onGroup : GroupCondition}
    (h : GroupingContext.bindCondition ⟨columns, types, groupBy, positions⟩ fields c =
      .ok onGroup) :
    ∃ bound, Relation.bindCondition columns types c = .ok bound ∧ bound.position ∈ positions ∧
      bound.onGroup = onGroup := by
  obtain ⟨j, hj⟩ := List.mem_iff_getElem?.mp hitem
  have hreads : c.Reads (.column name name) := by
    unfold Condition.Reads
    rw [hoperand]
    rfl
  obtain ⟨field, -, hlay, hbind⟩ := bindCondition_of_reads hlays hj hreads fun other hother => by
    cases hoperand.symm.trans hother
    exact hcount
  obtain ⟨comparand, hcast, rfl⟩ := map_eq_ok_iff.mp (hbind.symm.trans h)
  cases hlay with
  | @column _ i hi hgrouped _ =>
      refine ⟨⟨i, c.comparison, comparand⟩, ?_, hgrouped, rfl⟩
      -- the type of the name is that of the position that the name means
      have htype : typeAt? types columns i = columnType? types columns name := by
        unfold columnType?
        rw [position_eq_ok_iff.mp hi, Option.bind_some]
      unfold Relation.bindCondition
      rw [hoperand]
      dsimp only
      rw [hi, ok_bind, htype]
      exact bind_eq_ok_iff.mpr ⟨comparand, hcast, rfl⟩

/-- All conditions on columns grouped by bind on rows as they do on groups. -/
theorem exists_bounds_of_onKeys {group : ConditionGroup} (hkeys : group.OnKeys groupBy items)
    (hg : bindGrouping columns groupBy items (some group) types = .ok g) :
    ∃ bounds, group.conditions.mapM (Relation.bindCondition columns types) = .ok bounds ∧
      g.having = some (group.connective, bounds.map (·.onGroup)) ∧
      ∀ bound ∈ bounds, bound.position ∈ g.positions := by
  obtain ⟨onGroups, hhaving, hbinds⟩ := exists_having_of_bindGrouping hg
  have hbounds : ∃ bounds, List.Forall₂ (fun c bound =>
      Relation.bindCondition columns types c = .ok bound) group.conditions bounds ∧
      List.Forall₂ (fun bound onGroup => bound.position ∈ g.positions ∧ bound.onGroup = onGroup)
        bounds onGroups := by
    refine exists_forall₂_of_forall₂ hbinds fun c hc onGroup hbind => ?_
    obtain ⟨name, hoperand, hitem, hcount⟩ := hkeys c hc
    exact exists_bound_of_bindCondition (lays_of_bindGrouping hg) hoperand hitem hcount hbind
  obtain ⟨bounds, hbounds, honGroups⟩ := hbounds
  obtain ⟨hpositions, honGroups⟩ := (List.forall₂_and_left _ _).mp honGroups
  rw [← List.forall₂_map_left_iff, List.forall₂_eq_eq_eq] at honGroups
  exact ⟨bounds, mapM_eq_ok_iff.mpr hbounds, by rw [hhaving, honGroups], hpositions⟩

/-- Rows of one key are judged alike by conditions on the key. -/
theorem holds_congr {bounds : List BoundCondition}
    (hpositions : ∀ bound ∈ bounds, bound.position ∈ positions) {row other : Row}
    (h : cellsAt positions row = cellsAt positions other) :
    bounds.map (·.holds row) = bounds.map (·.holds other) := by
  refine List.map_congr_left fun bound hbound => ?_
  unfold BoundCondition.holds
  rw [cellsAt_eq_iff.mp h bound.position (hpositions bound hbound)]

/-- A group is kept just if its rows are. -/
theorem keeps_of_mem_groupRows {connective : Connective} {bounds : List BoundCondition}
    (hhaving : g.having = some (connective, bounds.map (·.onGroup)))
    (hpositions : ∀ bound ∈ bounds, bound.position ∈ g.positions) {rows group : List Row}
    (hgroup : group ∈ groupRows g.positions rows) {row : Row} (hrow : row ∈ group) :
    g.keeps group = connective.combine (bounds.map (·.holds row)) := by
  unfold BoundGrouping.keeps
  rw [hhaving]
  show connective.combine ((bounds.map _).map _) = _
  rw [List.map_map]
  refine congrArg connective.combine (List.map_congr_left fun bound hbound => ?_)
  show (CellSource.read _ group (.position bound.position)).satisfies _ _ = _
  rw [read_position_of_mem hgroup hrow (hpositions bound hbound)]
  rfl

/-- **Conditions on the columns grouped by let the same groups pass as rows.** -/
theorem Relation.exists_filter_of_group {r result : Relation} {group : ConditionGroup}
    (hne : groupBy ≠ []) (hkeys : group.OnKeys groupBy items)
    (h : r.group groupBy items (some group) types = .ok result) :
    ∃ filtered, r.filter group types = .ok filtered ∧
      filtered.group groupBy items none types = .ok result := by
  obtain ⟨g, hg, hcomputes, rfl⟩ := group_eq_ok_iff.mp h
  obtain ⟨bounds, hbounds, hhaving, hpositions⟩ := exists_bounds_of_onKeys hkeys hg
  have hsome : g.positions ≠ [] := positions_ne_nil_of_bindGrouping hne hg
  refine ⟨{ r with rows := r.rows.filter fun row =>
    group.connective.combine (bounds.map (·.holds row)) }, ?_, ?_⟩
  · unfold filter
    rw [hbounds]
    rfl
  · -- no condition compares an aggregate
    have hnone := bindGrouping_none hg fun bound hmem onGroup honGroup call hsource => by
      rw [hhaving] at hmem
      cases hmem
      obtain ⟨bound, -, rfl⟩ := List.mem_map.mp honGroup
      contradiction
    have hgroups : groupsOf g.positions (r.rows.filter fun row =>
          group.connective.combine (bounds.map (·.holds row))) =
        (groupsOf g.positions r.rows).filter g.keeps := by
      rw [groupsOf_of_ne_nil hsome, groupsOf_of_ne_nil hsome]
      refine groupRows_filter (fun row other hkey => ?_) fun rows hrows row hrow => ?_
      · rw [holds_congr hpositions hkey]
      · exact keeps_of_mem_groupRows hhaving hpositions hrows hrow
    refine group_none_eq_ok_iff.mpr ⟨_, hnone, fun rows hrows => ?_, ?_⟩
    · dsimp only at hrows
      rw [hgroups] at hrows
      exact hcomputes rows (List.mem_filter.mp hrows).1
    · dsimp only
      rw [hgroups]
      rfl

/-! ## Grouped queries -/

namespace Query

/-- The query with the conditions on groups. -/
def withHaving (q : Query) (group : ConditionGroup) : Query :=
  { q with filter := none, having := some group }

/-- The query with the conditions on rows. -/
def withFilter (q : Query) (group : ConditionGroup) : Query :=
  { q with filter := some group, having := none }

/-- **Conditions on the columns grouped by are conditions on rows.**  Let every condition be on a
column grouped by that is selected under its own name, which no other column of the result has.  If
the query answers with the conditions on groups, then it gives the same answer, row by row, with the
conditions on rows. -/
theorem answer_filter_of_having {c : Catalog} {q : Query} {groupBy : List String}
    (hgroupBy : q.groupBy = some groupBy) (hne : groupBy ≠ []) {group : ConditionGroup}
    (hkeys : group.OnKeys groupBy q.items) {r : Relation}
    (h : (q.withHaving group).answer c = .ok r) : (q.withFilter group).answer c = .ok r := by
  have hall : ∀ q' : Query, q'.groupBy = q.groupBy → ¬ q'.AggregatesAll := by
    rintro q' hsame ⟨hnone, -⟩
    cases hnone.symm.trans (hsame.trans hgroupBy)
  obtain ⟨types, selected, hselects, hpresent⟩ :=
    (answer_eq_ok_iff (hall (q.withHaving group) rfl)).mp h
  obtain ⟨source, stage, hsource, hstage, haggregate, hrun⟩ := hselects
  cases hstage
  -- the select list has an aggregate, so the result is laid out by it
  have hstars : ¬ q.items.all (· == .star) = true := by
    intro hstars
    obtain ⟨item, hitem, hisAggregate⟩ := List.any_eq_true.mp (haggregate rfl)
    rw [eq_of_beq (List.all_eq_true.mp hstars item hitem)] at hisAggregate
    contradiction
  have hpresentation : ∀ q' : Query, q'.items = q.items → q'.groupBy = q.groupBy →
      q'.presentation types = .grouped groupBy q.items q'.having types := by
    intro q' hitems hsame
    unfold presentation
    rw [hitems, if_neg hstars, hsame, hgroupBy]
  obtain ⟨base, arranged, hbase, harrange, hproject⟩ := present_eq_ok_iff.mp hpresent
  rw [hpresentation (q.withHaving group) rfl rfl] at hbase harrange hproject
  obtain ⟨filtered, hfiltered, hgrouped⟩ := Relation.exists_filter_of_group hne hkeys hbase
  refine (answer_eq_ok_iff (hall (q.withFilter group) rfl)).mpr ⟨types, filtered, ?_, ?_⟩
  · refine ⟨source, .filter source group types, hsource, if_pos hkeys.onColumnsOnly,
      fun hhaving => absurd hhaving Bool.false_ne_true, ?_⟩
    exact Plan.andThen_eq_ok_iff.mpr ⟨selected, hrun, hfiltered⟩
  · refine present_eq_ok_iff.mpr ⟨base, arranged, ?_⟩
    rw [hpresentation (q.withFilter group) rfl rfl]
    exact ⟨hgrouped, harrange, hproject⟩

/-- Keys that are numbers, compared with a text: the null is left out either way, and the other
groups keep all their rows. -/
theorem answer_filter_of_having_nullKey :
    let statements := ["CREATE TABLE t (k INT, a INT)", "INSERT INTO t (k, a) VALUES (2, 5)",
      "INSERT INTO t (k, a) VALUES (null, 9)", "INSERT INTO t (k, a) VALUES (1, 4)",
      "INSERT INTO t (k, a) VALUES (2, 7)"]
    let c := (Session.executeAll ∅ statements).2
    let q : Query :=
      { distinct := false, items := [.aggregate ⟨.max, some "a"⟩ "m", .star]
        source := ⟨"t", none⟩, joins := [], filter := none, groupBy := some ["k"], having := none
        orderBy := none, limit := none, offset := none }
    let group : ConditionGroup := ⟨.and, [⟨.column "k", .greaterOrEqual, .text "1"⟩]⟩
    let r : Relation := ⟨["m", "k"], [[.integer 7, .integer 2], [.integer 4, .integer 1]]⟩
    group.OnKeys ["k"] q.items ∧ (q.withHaving group).answer c = .ok r ∧
      (q.withFilter group).answer c = .ok r := by
  intro statements c q group r
  have hc : c = ⟨.ofList [("t", ⟨⟨"t", [⟨"k", .integer⟩, ⟨"a", .integer⟩], none⟩,
      [[.integer 2, .integer 5], [.null, .integer 9], [.integer 1, .integer 4],
        [.integer 2, .integer 7]]⟩)]⟩ := by decide +kernel
  have hkeys : group.OnKeys ["k"] q.items := by
    intro condition hcondition
    rw [List.mem_singleton.mp hcondition]
    exact ⟨"k", rfl, by decide, by decide⟩
  have hhaving : (q.withHaving group).answer c = .ok r := by
    rw [hc]
    decide +kernel
  exact ⟨hkeys, hhaving, answer_filter_of_having rfl (by decide) hkeys hhaving⟩

end Query

end RelStore
