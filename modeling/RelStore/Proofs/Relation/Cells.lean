import RelStore.Proofs.Relation.Layout
import RelStore.Proofs.Relation.Shape
import RelStore.Proofs.Store.Cells

/-!
# What the cells of a result have in common

A stage puts into its result cells of its sources, nulls, and what it computes: counts, sums, means
and extremes.  Of these only an extreme may be a text, and it is one of the cells that it is the
extreme of.  So a property that all values other than texts have (`hother`) passes from the cells of
the sources to those of the result, as does any property where nothing is padded or computed.
-/

namespace RelStore

variable {P : Value → Prop} {r r' : Relation}

/-! ## Rows that are picked -/

namespace AllCells

theorem filter (h : AllCells P r.rows) {group : ConditionGroup} {types : ColumnTypes}
    (hr : r.filter group types = .ok r') : AllCells P r'.rows := by
  obtain ⟨bound, -, hr⟩ := bind_eq_ok_iff.mp hr
  cases hr
  exact h.of_subset (List.filter_subset_self _)

theorem distinct (h : AllCells P r.rows) {columns : Option (List String)}
    (hr : r.distinct columns = .ok r') : AllCells P r'.rows := by
  obtain ⟨positions, rfl⟩ := Relation.distinct_eq_ok hr
  exact h.of_subset (firstBy_sublist _ _).subset

theorem sort (h : AllCells P r.rows) {key : SortKey} (hr : r.sort key = .ok r') :
    AllCells P r'.rows := by
  obtain ⟨i, -, hr⟩ := bind_eq_ok_iff.mp hr
  cases hr
  exact h.of_subset (stableSort_perm _ _).subset

end AllCells

/-! ## Values that are folded -/

/-- An extreme is one of the values, or a null if there are none. -/
theorem extremeOf_of_forall_mem {values : List Value} (h : ∀ v ∈ values, P v) (hnull : P .null)
    (order : Ordering) : P (extremeOf order values) := by
  have hkept : ∀ best : Option Value, (∀ v ∈ best, P v) → P (best.getD .null) := by
    intro best hbest
    cases best with
    | none => exact hnull
    | some v => exact hbest v rfl
  refine hkept _ (List.foldlRecOn values _ (motive := fun best => ∀ v ∈ best, P v) nofun ?_)
  intro best hbest v hv w hw
  cases best with
  | none =>
      cases hw
      exact h v hv
  | some b =>
      dsimp only at hw
      split at hw
      · cases hw
        exact h v hv
      · exact hbest w hw

theorem addNumbers_ne_text (v w : Value) (s : String) : addNumbers v w ≠ .text s := by
  unfold addNumbers
  dsimp only
  repeat' split
  all_goals nofun

theorem sumOf_ne_text (values : List Value) (s : String) : sumOf values ≠ .text s := by
  have hstart : Value.integer 0 ≠ .text s := nofun
  exact List.foldlRecOn values addNumbers (motive := (· ≠ .text s)) hstart fun sum _ v _ =>
    addNumbers_ne_text sum v s

theorem meanOf_ne_text (values : List Value) (s : String) : meanOf values ≠ .text s := by
  unfold meanOf
  split <;> nofun

theorem forall_mem_nonNullAt {rows : List Row} (h : AllCells P rows) (hnull : P .null) (i : Nat) :
    ∀ v ∈ nonNullAt i rows, P v := by
  intro v hv
  obtain ⟨row, hrow, rfl⟩ := List.mem_map.mp (List.mem_filter.mp hv).1
  exact cellAt_of_forall_mem (h row hrow) hnull i

variable (hother : ∀ v, (∀ s, v ≠ .text s) → P v)

include hother

/-- **What a function makes of a group is no text unless a cell of the group is.** -/
theorem AllCells.fold {function : AggregateFunction} {position : Option Nat} {rows : List Row}
    (h : AllCells P rows) {v : Value} (hv : function.fold position rows = .ok v) : P v := by
  have hextreme : ∀ order i, P (extremeOf order (nonNullAt i rows)) := by
    intro order i
    have hnull := hother .null nofun
    exact extremeOf_of_forall_mem (forall_mem_nonNullAt h hnull i) hnull order
  cases position with
  | none =>
      cases function <;> cases hv
      exact hother _ nofun
  | some i =>
      cases function with
      | count =>
          cases hv
          exact hother _ nofun
      | sum =>
          obtain ⟨values, -, rfl⟩ := map_eq_ok_iff.mp hv
          exact hother _ (sumOf_ne_text values)
      | avg =>
          obtain ⟨values, -, rfl⟩ := map_eq_ok_iff.mp hv
          exact hother _ (meanOf_ne_text values)
      | min =>
          cases hv
          exact hextreme .lt i
      | max =>
          cases hv
          exact hextreme .gt i

/-! ## Rows that are made -/

theorem AllCells.join (h : AllCells P r.rows) {t : Table} (ht : AllCells P t.rows)
    {kind : JoinKind} {left right qualifier : String}
    (hr : r.join t kind left right qualifier = .ok r') : AllCells P r'.rows := by
  have hnulls : ∀ n, ∀ v ∈ nulls n, P v := by
    intro n v hv
    rw [List.eq_of_mem_replicate hv]
    exact hother .null nofun
  rw [Relation.join_eq] at hr
  obtain ⟨i, -, hr⟩ := bind_eq_ok_iff.mp hr
  obtain ⟨j, -, hr⟩ := bind_eq_ok_iff.mp hr
  cases hr
  refine AllCells.append (fun row hrow => ?_) fun row hrow => ?_
  · obtain ⟨source, hsource, hrow⟩ := List.mem_flatMap.mp hrow
    unfold Relation.joinRow at hrow
    split at hrow
    next =>
      split at hrow
      · rw [List.mem_singleton.mp hrow]
        exact List.forall_mem_append.mpr ⟨h source hsource, hnulls _⟩
      · contradiction
    next =>
      obtain ⟨other, hpartner, rfl⟩ := List.mem_map.mp hrow
      exact List.forall_mem_append.mpr ⟨h source hsource, ht other (List.mem_filter.mp hpartner).1⟩
  · split at hrow
    · obtain ⟨other, hleft, rfl⟩ := List.mem_map.mp hrow
      exact List.forall_mem_append.mpr ⟨hnulls _, ht other (List.mem_filter.mp hleft).1⟩
    · contradiction

theorem AllCells.project (h : AllCells P r.rows) {items : List SelectItem}
    (hr : r.project items = .ok r') : AllCells P r'.rows := by
  obtain ⟨selected, -, hr⟩ := bind_eq_ok_iff.mp hr
  cases hr
  intro row hrow v hv
  obtain ⟨source, hsource, rfl⟩ := List.mem_map.mp hrow
  obtain ⟨i, -, rfl⟩ := List.mem_map.mp hv
  exact cellAt_of_forall_mem (h source hsource) (hother .null nofun) i

theorem AllCells.read {group : List Row} (hgroup : AllCells P group)
    {computed : List (Aggregate × Value)} (hcomputed : ∀ entry ∈ computed, P entry.2)
    (source : CellSource) : P (source.read computed group) := by
  cases source with
  | aggregate call =>
      show P ((computed.lookup call).getD .null)
      cases hcall : computed.lookup call with
      | none => exact hother .null nofun
      | some v =>
          obtain ⟨before, after, rfl, -⟩ := List.lookup_eq_some_iff.mp hcall
          exact hcomputed (call, v) (by simp)
  | position i =>
      cases group with
      | nil => exact hother .null nofun
      | cons first rest =>
          exact cellAt_of_forall_mem (hgroup first List.mem_cons_self) (hother .null nofun) i

theorem AllCells.group (h : AllCells P r.rows) {groupBy : List String} {items : List SelectItem}
    {having : Option ConditionGroup} {types : ColumnTypes}
    (hr : r.group groupBy items having types = .ok r') : AllCells P r'.rows := by
  obtain ⟨g, -, hcomputes, rfl⟩ := Relation.group_eq_ok_iff.mp hr
  intro row hrow v hv
  obtain ⟨group, hmem, rfl⟩ := List.mem_map.mp hrow
  obtain ⟨field, -, rfl⟩ := List.mem_map.mp hv
  have hgroups := (List.mem_filter.mp hmem).1
  have hcells := h.of_subset (Relation.subset_of_mem_groupsOf hgroups)
  refine hcells.read hother (fun entry hentry => ?_) field.source
  obtain ⟨call, -, hcall⟩ :=
    exists_mem_of_forall₂ (mapM_eq_ok_iff.mp (hcomputes group hgroups)) hentry
  obtain ⟨w, hw, hcall⟩ := bind_eq_ok_iff.mp hcall
  cases hcall
  exact hcells.fold hother hw

end RelStore
