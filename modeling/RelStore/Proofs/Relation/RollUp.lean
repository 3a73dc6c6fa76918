import RelStore.Proofs.Aggregate.RollUp
import RelStore.Proofs.Relation.Groups
import RelStore.Proofs.Relation.Layout

/-!
# Aggregates of a grouped relation

A column of a grouped result that shows an aggregate has one value for each group: the aggregate of
the rows of the group, looked up among all that were computed (`exists_fold_of_bindGrouping`).  The
groups have every row once.  `Relation.Parts` keeps just these two facts about the column, and they
are enough for its values to go together to the aggregate over all rows, which is the one row that a
grouping by nothing answers (`Relation.group_aggregate_eq`).
-/

namespace RelStore

variable {columns groupBy : List String} {types : ColumnTypes} {items : List SelectItem}
  {having : Option ConditionGroup} {g : BoundGrouping}

/-! ## Aggregates in groups -/

/-- A call that is computed is looked up with the value that it has in the group. -/
theorem exists_lookup_of_computeCalls {calls : List (Aggregate × Option Nat)} {group : List Row}
    {values : List (Aggregate × Value)} (h : computeCalls calls group = .ok values)
    {call : Aggregate} {i? : Option Nat} (hmem : (call, i?) ∈ calls)
    (hsame : ∀ entry ∈ calls, entry.1 = call → entry.2 = i?) :
    ∃ v, values.lookup call = some v ∧ call.function.fold i? group = .ok v := by
  replace h := mapM_eq_ok_iff.mp h
  induction h with
  | nil => contradiction
  | @cons entry value calls values hvalue _ ih =>
      obtain ⟨v, hv, hvalue⟩ := bind_eq_ok_iff.mp hvalue
      cases hvalue
      obtain ⟨hsameHead, hsameRest⟩ := List.forall_mem_cons.mp hsame
      by_cases heq : entry.1 = call
      · refine ⟨v, ?_, by rw [← heq, ← hsameHead heq]; exact hv⟩
        rw [heq, List.lookup_cons_self]
      · have hne : (call == entry.1) = false := beq_false_of_ne (Ne.symm heq)
        rw [List.lookup_cons, hne]
        refine ih ((List.mem_cons.mp hmem).resolve_left fun h => heq ?_) hsameRest
        rw [← h]

/-- **A column that shows an aggregate reads the aggregate of the group.** -/
theorem exists_fold_of_bindGrouping (h : bindGrouping columns groupBy items having types = .ok g)
    {field : OutputField} (hfield : field ∈ g.fields) {call : Aggregate}
    (hsource : field.source = .aggregate call) :
    ∃ i?, call.column.mapM (position columns) = .ok i? ∧ ∀ group, g.Computes group →
      call.function.fold i? group = .ok (field.source.read (g.computed group) group) := by
  have hneeded : call ∈ neededAggregates (g.fields.map (·.source) ++
      ((g.having.map (·.2)).getD []).map (·.source)) :=
    mem_neededAggregates_iff.mpr
      (List.mem_append_left _ (List.mem_map.mpr ⟨field, hfield, hsource⟩))
  obtain ⟨-, -, -, hcalls⟩ := bindGrouping_eq_ok h
  obtain ⟨entry, hentry, hcall⟩ := exists_mem_of_forall₂ (mapM_eq_ok_iff.mp hcalls).flip hneeded
  obtain ⟨i?, hi?, hcall⟩ := bind_eq_ok_iff.mp hcall
  cases hcall
  refine ⟨i?, hi?, fun group hcomputes => ?_⟩
  obtain ⟨v, hlookup, hv⟩ := exists_lookup_of_computeCalls hcomputes hentry
    fun other hother heq => by
      have hother := (call_of_bindGrouping h hother).2
      rw [heq, hi?] at hother
      exact (Except.ok.inj hother).symm
  rw [hv, hsource]
  show _ = Except.ok (((g.computed group).lookup call).getD .null)
  rw [hlookup, Option.getD_some]

namespace Relation

variable {r result : Relation}

/-- The values are those of an aggregate in groups that have every row once. -/
def Parts (r : Relation) (call : Aggregate) (parts : List Value) : Prop :=
  ∃ i? groups, call.column.mapM (position r.columns) = .ok i? ∧ groups.flatten.Perm r.rows ∧
    List.Forall₂ (fun group part => call.function.fold i? group = .ok part) groups parts

/-- **A column of a grouped result that shows an aggregate has its values in groups.** -/
theorem parts_of_group (hne : groupBy ≠ []) (h : r.group groupBy items none types = .ok result)
    {j : Nat} {call : Aggregate} {out : String}
    (hj : (laidOut groupBy items)[j]? = some (.aggregate call out)) :
    r.Parts call (result.rows.map (cellAt · j)) := by
  obtain ⟨g, hg, hcomputes, rfl⟩ := group_none_eq_ok_iff.mp h
  rw [groupsOf_of_ne_nil (positions_ne_nil_of_bindGrouping hne hg)] at hcomputes ⊢
  obtain ⟨field, hfield, hlay⟩ := exists_getElem?_of_forall₂ (lays_of_bindGrouping hg) hj
  have hsource : field.source = .aggregate call := by
    cases hlay
    rfl
  obtain ⟨i?, hi?, hfold⟩ :=
    exists_fold_of_bindGrouping hg (List.mem_of_getElem? hfield) hsource
  refine ⟨i?, groupRows g.positions r.rows, hi?, flatten_groupRows_perm _ _, ?_⟩
  rw [List.map_map, List.forall₂_map_right_iff, List.forall₂_same]
  intro group hgroup
  rw [hfold group (hcomputes group hgroup)]
  unfold BoundGrouping.rowOf cellAt
  rw [Function.comp_apply, List.getElem?_map, hfield]
  rfl

/-- **An aggregate over all rows is one row with its value**, and fails as its column is not found
or its value cannot be computed. -/
theorem group_aggregate_eq (r : Relation) (call : Aggregate) (out : String) :
    r.group [] [.aggregate call out] none types =
      call.column.mapM (position r.columns) >>= fun i? =>
        (call.function.fold i? r.rows).map fun v => ⟨[out], [[v]]⟩ := by
  let field : OutputField :=
    ⟨out, .aggregate call, GroupingContext.aggregateType? ⟨r.columns, types, [], []⟩ call⟩
  have hbind : bindGrouping r.columns [] [.aggregate call out] none types =
      (call.column.mapM (position r.columns)).map fun i? => ⟨[], [field], none, [(call, i?)]⟩ := by
    let find (call : Aggregate) : Except Error (Aggregate × Option Nat) :=
      call.column.mapM (position r.columns) >>= fun i? => .ok (call, i?)
    show ([call].mapM find >>= _) = _
    rw [mapM_singleton]
    show ((call.column.mapM (position r.columns) >>= _).map _ >>= _) = _
    cases call.column.mapM (position r.columns) <;> rfl
  have hrow : ∀ i?, groupRow [field] [(call, i?)] none r.rows =
      (call.function.fold i? r.rows).map fun v => some [v] := by
    intro i?
    unfold groupRow
    rw [mapM_singleton]
    dsimp only
    cases call.function.fold i? r.rows with
    | error e => rfl
    | ok v =>
        show Except.ok (some [((List.lookup call [(call, v)]).getD .null)]) = _
        rw [List.lookup_cons_self]
        rfl
  rw [group_eq_bind, hbind]
  cases call.column.mapM (position r.columns) with
  | error e => rfl
  | ok i? =>
      show ([r.rows].mapM (groupRow [field] [(call, i?)] none) >>= _) = _
      rw [mapM_singleton, hrow, ok_bind]
      cases call.function.fold i? r.rows <;> rfl

theorem group_aggregate {call : Aggregate} {i? : Option Nat}
    (hi? : call.column.mapM (position r.columns) = .ok i?) {v : Value}
    (hv : call.function.fold i? r.rows = .ok v) (out : String) :
    r.group [] [.aggregate call out] none types = .ok ⟨[out], [[v]]⟩ := by
  rw [group_aggregate_eq, hi?, ok_bind, hv]
  rfl

/-- The column of an aggregate with a name is found. -/
theorem Parts.exists_position {function : AggregateFunction} {name : String} {parts : List Value}
    (h : r.Parts ⟨function, some name⟩ parts) :
    ∃ i groups, position r.columns name = .ok i ∧ groups.flatten.Perm r.rows ∧
      List.Forall₂ (fun group part => function.fold (some i) group = .ok part) groups parts := by
  obtain ⟨i?, groups, hi?, hperm, hparts⟩ := h
  obtain ⟨i, hi, rfl⟩ := optionMapM_some_eq_ok_iff.mp hi?
  exact ⟨i, groups, hi, hperm, hparts⟩

/-- Counts of groups add up to the count over all rows, and to the number of rows if rows are
counted. -/
theorem Parts.exists_counts {column : Option String} {parts : List Value}
    (h : r.Parts ⟨.count, column⟩ parts) (types : ColumnTypes) (out : String) :
    ∃ counts : List Nat, parts = counts.map countValue ∧
      r.group [] [.aggregate ⟨.count, column⟩ out] none types =
        .ok ⟨[out], [[countValue counts.sum]]⟩ ∧
      (column = none → counts.sum = r.rows.length) := by
  obtain ⟨i?, groups, hi?, hperm, hparts⟩ := h
  obtain ⟨counts, hcounts, hfold, hsum⟩ := RelStore.exists_counts hperm hparts
  refine ⟨counts, hcounts, group_aggregate hi? hfold out, ?_⟩
  rintro rfl
  cases hi?
  exact hsum

/-- The extreme over all rows is that of the extremes of groups. -/
theorem Parts.exists_extreme {direction : SortDirection} {name : String} {parts : List Value}
    (h : r.Parts ⟨direction.extreme, some name⟩ parts)
    (hholds : ∀ i, position r.columns name = .ok i → ∃ type : ColumnType,
      ∀ row ∈ r.rows, type.Holds (cellAt row i)) (types : ColumnTypes) (out : String) :
    ∃ v, r.group [] [.aggregate ⟨direction.extreme, some name⟩ out] none types =
        .ok ⟨[out], [[v]]⟩ ∧ IsFirst direction parts v := by
  obtain ⟨i, groups, hi, hperm, hparts⟩ := h.exists_position
  obtain ⟨type, hcolumn⟩ := hholds i hi
  obtain ⟨v, hfold, hfirst⟩ := RelStore.exists_extreme hperm hcolumn hparts
  exact ⟨v, group_aggregate (optionMapM_some_eq_ok_iff.mpr ⟨i, hi, rfl⟩) hfold out, hfirst⟩

/-- Sums of integers of groups add up to the sum over all rows. -/
theorem Parts.exists_totals {name : String} {parts : List Value}
    (h : r.Parts ⟨.sum, some name⟩ parts) {i : Nat} (hi : position r.columns name = .ok i)
    (hholds : ∀ row ∈ r.rows, ColumnType.integer.Holds (cellAt row i))
    (hbound : (absoluteSum (integersAt i r.rows) : Int) ≤ Int64.maxValue.toInt)
    (types : ColumnTypes) (out : String) :
    ∃ (totals : List Int64) (total : Int64), parts = totals.map .integer ∧
      r.group [] [.aggregate ⟨.sum, some name⟩ out] none types =
        .ok ⟨[out], [[.integer total]]⟩ ∧
      total.toInt = (totals.map (·.toInt)).sum := by
  obtain ⟨i', groups, hi', hperm, hparts⟩ := h.exists_position
  cases hi'.symm.trans hi
  obtain ⟨totals, total, htotals, hfold, hsum⟩ :=
    RelStore.exists_totals hperm hholds hbound hparts
  exact ⟨totals, total, htotals,
    group_aggregate (optionMapM_some_eq_ok_iff.mpr ⟨i, hi, rfl⟩) hfold out, hsum⟩

end Relation

end RelStore
