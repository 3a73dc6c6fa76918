import RelStore.Proofs.Occurrence
import RelStore.Proofs.Relation.Layout
import RelStore.Proofs.Relation.Selected
import RelStore.Relation.Filter

/-!
# Conditions on groups

A condition on groups compares what is a column of the result, named or given as the aggregate that
the column is selected for, with a literal that is cast as the values of the column ask
(`Condition.BindsTo`).  In the grouping it is bound before there is a result: to the source that the
column is read from (`bindCondition_of_reads`).  Both judge the same value, so the condition holds
of a group just if it holds of the group's row (`Condition.BindsTo.holds_rowOf`).

The aggregates that are computed for the conditions are computed for the select list as well.
Without the conditions the same grouping is left (`bindGrouping_none`), and the conditions do no
more than filter what it answers (`Relation.group_having`).
-/

namespace RelStore

/-! ## Conditions and what they are compared with -/

/-- What the condition compares is what the item selects: it has the item's name, or is the item's
aggregate. -/
def Condition.Reads (c : Condition) (item : SelectItem) : Prop :=
  match c.operand with
  | .column name => item.outputName? = some name
  | .aggregate call => item.call? = some call

/-- The condition on groups is one on the rows of the result: it compares the values of a column
that an item lays out with its literal, cast to the type of these values. -/
def Condition.BindsTo (columns : List String) (types : ColumnTypes) (selected : List SelectItem)
    (c : Condition) (bound : BoundCondition) : Prop :=
  bound.comparison = c.comparison ∧ ∃ item, selected[bound.position]? = some item ∧
    c.Reads item ∧
    castComparandTo (item.valueType? types columns) c.literal = .ok bound.comparand

variable {columns groupBy : List String} {types : ColumnTypes} {items : List SelectItem}
  {having : Option ConditionGroup} {positions : List Nat} {g : BoundGrouping}

/-- **A condition binds to the column of the result that it reads**, if that is the one column of
its name. -/
theorem bindCondition_of_reads {fields : List OutputField}
    (hlays : List.Forall₂ (Lays columns types positions) (laidOut groupBy items) fields)
    {c : Condition} {item : SelectItem} {j : Nat} (hj : (laidOut groupBy items)[j]? = some item)
    (hreads : c.Reads item)
    (hname : ∀ name, c.operand = .column name → (outputNames groupBy items).count name = 1) :
    ∃ field, fields[j]? = some field ∧ Lays columns types positions item field ∧
      GroupingContext.bindCondition ⟨columns, types, groupBy, positions⟩ fields c =
        (castComparandTo (item.valueType? types columns) c.literal).map fun comparand =>
          ⟨field.source, c.comparison, comparand⟩ := by
  obtain ⟨field, hfield, hlay⟩ := exists_getElem?_of_forall₂ hlays hj
  refine ⟨field, hfield, hlay, ?_⟩
  unfold Condition.Reads at hreads
  unfold GroupingContext.bindCondition
  cases hoperand : c.operand with
  | column name =>
      rw [hoperand] at hreads
      have heq : field.name = name := Option.some.inj (hlay.outputName?_eq.symm.trans hreads)
      have hposition : position? (fields.map (·.name)) name = some j := by
        have hcount := hname name hoperand
        rw [← map_name_of_lays hlays] at hcount
        refine position_eq_ok_iff.mp (position_of_count_eq_one hcount ?_)
        rw [List.getElem?_map, hfield, Option.map_some, heq]
      have hsource : GroupingContext.namedSource ⟨columns, types, groupBy, positions⟩ fields name =
          .ok (field.source, field.type) := by
        unfold GroupingContext.namedSource
        rw [hposition, Option.bind_some, hfield]
      dsimp only
      rw [hsource, ok_bind, hlay.type_eq]
      cases castComparandTo (item.valueType? types columns) c.literal <;> rfl
  | aggregate call =>
      rw [hoperand] at hreads
      cases hlay with
      | column _ _ _ => contradiction
      | aggregate call' outputName =>
          cases hreads
          dsimp only
          rw [pure_bind, aggregateType?_eq call outputName]
          cases castComparandTo _ c.literal <;> rfl

/-! ## Groupings without their conditions -/

/-- Aggregates that are needed anyway are not needed once more. -/
theorem neededAggregates_append_of_mem {sources more : List CellSource}
    (h : ∀ call, .aggregate call ∈ more → .aggregate call ∈ sources) :
    neededAggregates (sources ++ more) = neededAggregates sources := by
  have hnone : (more.filterMap CellSource.call?).removeAll (sources.filterMap CellSource.call?) =
      [] := by
    refine List.filter_eq_nil_iff.mpr fun call hcall => ?_
    obtain ⟨source, hsource, heq⟩ := List.mem_filterMap.mp hcall
    rw [CellSource.call?_eq_some_iff.mp heq] at hsource
    have hneeded : call ∈ sources.filterMap CellSource.call? :=
      List.mem_filterMap.mpr ⟨_, h call hsource, rfl⟩
    simpa using hneeded
  rw [neededAggregates_eq, neededAggregates_eq, firstBy_id, firstBy_id, List.filterMap_append,
    List.eraseDups_append, hnone, List.eraseDups_nil, List.append_nil]

/-- **A grouping can be bound without its conditions**, and in the same way if they compare no
aggregate that is not selected. -/
theorem bindGrouping_none (h : bindGrouping columns groupBy items having types = .ok g)
    (hselected : ∀ bound ∈ g.having, ∀ c ∈ bound.2, ∀ call, c.source = .aggregate call →
      ∃ field ∈ g.fields, field.source = .aggregate call) :
    bindGrouping columns groupBy items none types = .ok { g with having := none } := by
  obtain ⟨hpositions, ⟨lists, hlists, hflatten⟩, -, hcalls⟩ := bindGrouping_eq_ok h
  rw [neededAggregates_append_of_mem] at hcalls
  · unfold bindGrouping
    rw [hpositions, ok_bind]
    dsimp only
    rw [hlists, ok_bind, ← hflatten, Option.mapM_none, pure_bind]
    dsimp only [Option.map_none, Option.getD_none, List.map_nil]
    rw [List.map_nil, List.append_nil, hcalls]
    rfl
  · intro call hcall
    obtain ⟨c, hc, hsource⟩ := List.mem_map.mp hcall
    cases hhaving : g.having with
    | none =>
        rw [hhaving] at hc
        contradiction
    | some bound =>
        rw [hhaving] at hc
        obtain ⟨field, hfield, heq⟩ := hselected bound hhaving c hc call hsource
        exact List.mem_map.mpr ⟨field, hfield, heq⟩

/-- The conditions of a grouping are bound one by one. -/
theorem exists_having_of_bindGrouping {group : ConditionGroup}
    (h : bindGrouping columns groupBy items (some group) types = .ok g) :
    ∃ bounds, g.having = some (group.connective, bounds) ∧
      List.Forall₂ (fun c bound => GroupingContext.bindCondition
        ⟨columns, types, groupBy, g.positions⟩ g.fields c = .ok bound) group.conditions bounds := by
  obtain ⟨-, -, hhaving, -⟩ := bindGrouping_eq_ok h
  obtain ⟨bound, hbound, hhaving⟩ := map_eq_ok_iff.mp hhaving
  obtain ⟨bounds, hbounds, hbound⟩ := bind_eq_ok_iff.mp hbound
  cases hbound
  exact ⟨bounds, hhaving.symm, mapM_eq_ok_iff.mp hbounds⟩

/-! ## Conditions filter the result -/

/-- The condition is the given one, or compares an aggregate of the select list by the name that it
bears there. -/
def Renames (items : List SelectItem) (c c' : Condition) : Prop :=
  c' = c ∨ ∃ call outputName, .aggregate call outputName ∈ items ∧ c.operand = .aggregate call ∧
    c' = { c with operand := .column outputName }

theorem mem_laidOut_aggregate {call : Aggregate} {outputName : String}
    (h : .aggregate call outputName ∈ items) : .aggregate call outputName ∈ laidOut groupBy items :=
  List.mem_flatMap.mpr ⟨_, h, List.mem_singleton.mpr rfl⟩

/-- The name of a column that a condition reads is that of one column, if all names differ. -/
theorem Condition.Reads.count_eq_one {c : Condition} {item : SelectItem} (hreads : c.Reads item)
    (hnodup : (outputNames groupBy items).Nodup) (hitem : item ∈ laidOut groupBy items)
    {name : String} (hoperand : c.operand = .column name) :
    (outputNames groupBy items).count name = 1 := by
  unfold Condition.Reads at hreads
  rw [hoperand] at hreads
  exact List.count_eq_one_of_mem hnodup (List.mem_filterMap.mpr ⟨item, hitem, hreads⟩)

/-- A condition under another name binds as before. -/
theorem Renames.bindCondition_eq {c c' : Condition} (h : Renames items c c')
    (hnodup : (outputNames groupBy items).Nodup) {fields : List OutputField}
    (hlays : List.Forall₂ (Lays columns types positions) (laidOut groupBy items) fields) :
    GroupingContext.bindCondition ⟨columns, types, groupBy, positions⟩ fields c' =
      GroupingContext.bindCondition ⟨columns, types, groupBy, positions⟩ fields c := by
  rcases h with rfl | ⟨call, outputName, hitem, hoperand, rfl⟩
  · rfl
  · have hmem : .aggregate call outputName ∈ laidOut groupBy items := mem_laidOut_aggregate hitem
    obtain ⟨j, hj⟩ := List.mem_iff_getElem?.mp hmem
    -- both the call and the name read the column of the call
    have hcall : c.Reads (.aggregate call outputName) := by
      unfold Condition.Reads
      rw [hoperand]
      rfl
    have hnamed : Condition.Reads ⟨.column outputName, c.comparison, c.literal⟩
        (.aggregate call outputName) := rfl
    obtain ⟨field, hfield, -, hbind⟩ :=
      bindCondition_of_reads hlays hj hcall fun _ => hcall.count_eq_one hnodup hmem
    obtain ⟨field', hfield', -, hbind'⟩ :=
      bindCondition_of_reads hlays hj hnamed fun _ => hnamed.count_eq_one hnodup hmem
    cases hfield.symm.trans hfield'
    exact hbind'.trans hbind.symm

/-- **A condition holds of a group just if it holds of the row that the group becomes.** -/
theorem Condition.BindsTo.holds_rowOf
    (hg : bindGrouping columns groupBy items having types = .ok g)
    (hnodup : (outputNames groupBy items).Nodup) {c : Condition} {bound : BoundCondition}
    (h : c.BindsTo columns types (laidOut groupBy items) bound) {onGroup : GroupCondition}
    (hbind : GroupingContext.bindCondition ⟨columns, types, groupBy, g.positions⟩ g.fields c =
      .ok onGroup) (group : List Row) :
    bound.holds (g.rowOf group) =
      (onGroup.source.read (g.computed group) group).satisfies onGroup.comparison
        onGroup.comparand := by
  obtain ⟨hcomparison, item, hitem, hreads, hcast⟩ := h
  obtain ⟨field, hfield, -, hbind'⟩ := bindCondition_of_reads (lays_of_bindGrouping hg) hitem hreads
    fun _ => hreads.count_eq_one hnodup (List.mem_of_getElem? hitem)
  rw [hcast] at hbind'
  cases hbind.symm.trans hbind'
  have hcell : cellAt (g.rowOf group) bound.position =
      field.source.read (g.computed group) group := by
    unfold cellAt BoundGrouping.rowOf
    rw [List.getElem?_map, hfield]
    rfl
  unfold BoundCondition.holds
  rw [hcell, hcomparison]

section Reads

variable {group : ConditionGroup}

/-- A condition that reads a column of the result is bound to its source, and has the literal cast
to the type of its values. -/
theorem exists_bindsTo_of_bindCondition {fields : List OutputField}
    (hlays : List.Forall₂ (Lays columns types positions) (laidOut groupBy items) fields)
    (hnodup : (outputNames groupBy items).Nodup) {c : Condition}
    (hreads : ∃ item ∈ laidOut groupBy items, c.Reads item) {onGroup : GroupCondition}
    (h : GroupingContext.bindCondition ⟨columns, types, groupBy, positions⟩ fields c =
      .ok onGroup) :
    (∃ field ∈ fields, field.source = onGroup.source) ∧
      ∃ bound, c.BindsTo columns types (laidOut groupBy items) bound := by
  obtain ⟨item, hitem, hread⟩ := hreads
  obtain ⟨j, hj⟩ := List.mem_iff_getElem?.mp hitem
  obtain ⟨field, hfield, -, hbind⟩ :=
    bindCondition_of_reads hlays hj hread fun _ => hread.count_eq_one hnodup hitem
  obtain ⟨comparand, hcast, rfl⟩ := map_eq_ok_iff.mp (hbind.symm.trans h)
  exact ⟨⟨field, List.mem_of_getElem? hfield, rfl⟩, ⟨j, c.comparison, comparand⟩, rfl, item, hj,
    hread, hcast⟩

/-- Conditions that read columns of the result are bound, and left out without a trace. -/
theorem bindGrouping_none_of_reads (hnodup : (outputNames groupBy items).Nodup)
    (hreads : ∀ c ∈ group.conditions, ∃ item ∈ laidOut groupBy items, c.Reads item)
    (hg : bindGrouping columns groupBy items (some group) types = .ok g) :
    bindGrouping columns groupBy items none types = .ok { g with having := none } ∧
      ∃ bounds, List.Forall₂ (Condition.BindsTo columns types (laidOut groupBy items))
        group.conditions bounds := by
  have hlays := lays_of_bindGrouping hg
  obtain ⟨onGroups, hhaving, hbinds⟩ := exists_having_of_bindGrouping hg
  constructor
  · refine bindGrouping_none hg fun bound hmem onGroup honGroup call hsource => ?_
    rw [hhaving] at hmem
    cases hmem
    obtain ⟨c, hc, hbind⟩ := exists_mem_of_forall₂ hbinds honGroup
    obtain ⟨⟨field, hfield, heq⟩, -⟩ :=
      exists_bindsTo_of_bindCondition hlays hnodup (hreads c hc) hbind
    exact ⟨field, hfield, heq.trans hsource⟩
  · refine exists_forall₂ fun c hc => ?_
    obtain ⟨onGroup, -, hbind⟩ := exists_mem_of_forall₂ hbinds.flip hc
    exact (exists_bindsTo_of_bindCondition hlays hnodup (hreads c hc) hbind).2

/-- **A group is kept just if the conditions hold of the row that it becomes.** -/
theorem keeps_eq_combine (hnodup : (outputNames groupBy items).Nodup)
    (hg : bindGrouping columns groupBy items (some group) types = .ok g)
    {bounds : List BoundCondition}
    (hbounds : List.Forall₂ (Condition.BindsTo columns types (laidOut groupBy items))
      group.conditions bounds) (rows : List Row) :
    g.keeps rows = group.connective.combine (bounds.map (·.holds (g.rowOf rows))) := by
  obtain ⟨onGroups, hhaving, hbinds⟩ := exists_having_of_bindGrouping hg
  unfold BoundGrouping.keeps
  rw [hhaving]
  refine congrArg group.connective.combine (map_eq_map_of_forall₂ hbinds hbounds ?_)
  intro c onGroup bound hbind hbindsTo
  exact (hbindsTo.holds_rowOf hg hnodup hbind rows).symm

end Reads

namespace Relation

/-- Conditions under other names group as before. -/
theorem group_renames {r : Relation} (hnodup : (outputNames groupBy items).Nodup)
    {group : ConditionGroup} {conditions : List Condition}
    (hrenames : List.Forall₂ (Renames items) group.conditions conditions) :
    r.group groupBy items (some ⟨group.connective, conditions⟩) types =
      r.group groupBy items (some group) types := by
  rw [group_eq_bind, group_eq_bind]
  refine congrArg (· >>= _) ?_
  unfold bindGrouping
  refine bind_congr_of_eq_ok fun positions hpositions => ?_
  refine bind_congr_of_eq_ok fun lists hlists => ?_
  -- the names are looked up among the same columns, and the conditions bind one by one
  have hlays := lays_of_mapM_fields hpositions hlists
  refine congrArg (· >>= _) ?_
  rw [Option.mapM_some, Option.mapM_some]
  have hconditions := mapM_congr_forall₂ (hrenames.imp fun _ _ hrename =>
    (hrename.bindCondition_eq hnodup hlays).symm)
  dsimp only
  rw [hconditions]

/-- **Conditions on groups filter the grouped result.**  Let the columns of the result have
different names, and let every condition be on one of them, by its name or as the aggregate that is
selected.  A grouping that succeeds with the conditions succeeds without them and answers the same
columns.  Its rows are those of the other, in their order, that the conditions hold of, put together
by the connective: each compares the value in the row with the literal, cast to the type of the
value.  And to compare by the name of an aggregate what is compared as an aggregate changes nothing,
failures included. -/
theorem group_having {r : Relation} (hnodup : (outputNames groupBy items).Nodup)
    (group : ConditionGroup) :
    (∀ result, (∀ c ∈ group.conditions, ∃ item ∈ laidOut groupBy items, c.Reads item) →
      r.group groupBy items (some group) types = .ok result →
      ∃ all, r.group groupBy items none types = .ok all ∧ result.columns = all.columns ∧
        (∃ bounds, List.Forall₂ (Condition.BindsTo r.columns types (laidOut groupBy items))
          group.conditions bounds) ∧
        ∀ bounds, List.Forall₂ (Condition.BindsTo r.columns types (laidOut groupBy items))
            group.conditions bounds →
          result.rows = all.rows.filter fun row =>
            group.connective.combine (bounds.map (·.holds row))) ∧
    ∀ conditions, List.Forall₂ (Renames items) group.conditions conditions →
      r.group groupBy items (some ⟨group.connective, conditions⟩) types =
        r.group groupBy items (some group) types := by
  refine ⟨fun result hreads h => ?_, fun conditions => group_renames hnodup⟩
  obtain ⟨g, hg, hcomputes, rfl⟩ := group_eq_ok_iff.mp h
  obtain ⟨hnone, hbounds⟩ := bindGrouping_none_of_reads hnodup hreads hg
  refine ⟨⟨outputNames groupBy items, (groupsOf g.positions r.rows).map g.rowOf⟩, ?_, rfl, hbounds,
    fun bounds hbounds => ?_⟩
  · exact group_none_eq_ok_iff.mpr ⟨_, hnone, hcomputes, rfl⟩
  · dsimp only
    rw [List.filter_map]
    refine congrArg (List.map g.rowOf) (List.filter_congr fun rows _ => ?_)
    exact keeps_eq_combine hnodup hg hbounds rows

/-- The greatest numbers of the groups, compared with a number that is written as a text.  A null is
no number, and one of the groups is left out. -/
theorem group_having_textLiteral :
    let r : Relation := ⟨["k", "a"], [[.integer 1, .integer 5], [.integer 2, .integer 1],
      [.integer 1, .null], [.integer 2, .integer 0]]⟩
    let types : ColumnTypes := .ofList [("k", .integer), ("a", .integer)]
    let items : List SelectItem := [.column "k" "k", .aggregate ⟨.max, some "a"⟩ "m"]
    let all : Relation := ⟨["k", "m"], [[.integer 1, .integer 5], [.integer 2, .integer 1]]⟩
    let result : Relation := ⟨["k", "m"], [[.integer 1, .integer 5]]⟩
    let group (operand : Operand) : ConditionGroup := ⟨.and, [⟨operand, .greater, .text "1"⟩]⟩
    r.group ["k"] items (some (group (.aggregate ⟨.max, some "a"⟩))) types = .ok result ∧
      r.group ["k"] items (some (group (.column "m"))) types = .ok result ∧
      r.group ["k"] items none types = .ok all ∧
      result.rows = all.rows.filter fun row => (cellAt row 1).satisfies .greater (.integer 1) := by
  intro r types items all result group
  have hnodup : (outputNames ["k"] items).Nodup := by decide
  have hgroup : r.group ["k"] items (some (group (.aggregate ⟨.max, some "a"⟩))) types =
      .ok result := by decide +kernel
  have hreads : ∀ c ∈ (group (.aggregate ⟨.max, some "a"⟩)).conditions,
      ∃ item ∈ laidOut ["k"] items, c.Reads item := by
    intro c hc
    rw [List.mem_singleton.mp hc]
    exact ⟨.aggregate ⟨.max, some "a"⟩ "m", by decide, rfl⟩
  obtain ⟨hfilter, hrename⟩ :=
    @group_having _ types _ r hnodup (group (.aggregate ⟨.max, some "a"⟩))
  obtain ⟨all', hall, -, -, hrows⟩ := hfilter result hreads hgroup
  have hnone : r.group ["k"] items none types = .ok all := by decide +kernel
  cases hall.symm.trans hnone
  refine ⟨hgroup, ?_, hnone, ?_⟩
  · refine (hrename [⟨.column "m", .greater, .text "1"⟩] (.cons ?_ .nil)).trans hgroup
    exact .inr ⟨_, "m", by decide, rfl, rfl⟩
  · have hbinds : Condition.BindsTo r.columns types (laidOut ["k"] items)
        ⟨.aggregate ⟨.max, some "a"⟩, .greater, .text "1"⟩ ⟨1, .greater, .integer 1⟩ :=
      ⟨rfl, .aggregate ⟨.max, some "a"⟩ "m", rfl, rfl, by decide +kernel⟩
    rw [hrows _ (.cons hbinds .nil)]
    simp [BoundCondition.holds, Connective.combine, group]

end Relation

end RelStore
