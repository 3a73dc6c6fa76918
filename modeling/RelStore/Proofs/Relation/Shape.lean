import RelStore.Proofs.Occurrence
import RelStore.Proofs.Relation.Checked
import RelStore.Proofs.Relation.NestedLoop
import RelStore.Proofs.Store.Valid

/-!
# Rows as wide as their columns

A relation is shaped when every row has one value per column.  Stages look names up among the
columns and read the rows at the positions found, so on a shaped relation they read within the
rows; and what they make of a shaped relation is shaped again.

| stage | a row of the result is |
| --- | --- |
| filter, distinct, sort | a row of the source |
| join | a row of the source beside one of the table, or nulls in place of either |
| group | one value per column of the result |
| projection | one value per position selected |

Each stage has two lemmas: `Shaped.join` and its like say that the result is shaped,
`checkedJoin_eq` and its like that the checked stage answers what the stage answers.
-/

namespace RelStore

/-- Every row has one value per column. -/
def Relation.Shaped (r : Relation) : Prop :=
  ∀ row ∈ r.rows, row.length = r.columns.length

/-! ## Reading within rows -/

theorem readCell_eq_ok {row : Row} {i : Nat} (h : i < row.length) :
    readCell row i = .ok (cellAt row i) := by
  unfold readCell cellAt
  rw [dif_pos h, List.getElem?_eq_getElem h, Option.getD_some]

theorem readCells_eq_ok {positions : List Nat} {row : Row} (h : ∀ i ∈ positions, i < row.length) :
    readCells positions row = .ok (cellsAt positions row) :=
  mapM_eq_ok_map fun i hi => readCell_eq_ok (h i hi)

section Unchecked

variable {α β : Type}

/-- Steps of which each is the checked form of another make the checked form of the sequence. -/
theorem unchecked_bind {x : Except Error α} {f : α → Except Error β} {g : α → Checked β}
    (h : ∀ a, x = .ok a → g a = unchecked (f a)) : (unchecked x >>= g) = unchecked (x >>= f) := by
  cases x with
  | error e => rfl
  | ok a => exact h a rfl

theorem mapM_eq_unchecked {f : α → Checked β} {g : α → Except Error β} {l : List α}
    (h : ∀ a ∈ l, f a = unchecked (g a)) : l.mapM f = unchecked (l.mapM g) := by
  induction l with
  | nil => rfl
  | cons a l ih =>
      obtain ⟨ha, hl⟩ := List.forall_mem_cons.mp h
      rw [List.mapM_cons, List.mapM_cons, ha]
      refine unchecked_bind fun b _ => ?_
      rw [ih hl]
      exact unchecked_bind fun _ _ => rfl

end Unchecked

/-! ## Sorted rows, with their keys -/

section Keyed

universe u v

variable {α : Type u} {β : Type v}

theorem insertFromEnd_map (before : β → β → Bool) (f : α → β) (a : α) (l : List α) :
    insertFromEnd before (f a) (l.map f) =
      (insertFromEnd (fun a b => before (f a) (f b)) a l).map f := by
  induction l with
  | nil => rfl
  | cons b l ih =>
      simp only [List.map_cons, insertFromEnd]
      split
      · rw [ih, List.map_cons]
      · rfl

theorem stableSort_map (before : β → β → Bool) (f : α → β) (l : List α) :
    stableSort before (l.map f) = (stableSort (fun a b => before (f a) (f b)) l).map f := by
  have hfold : ∀ (l sorted : List α),
      (l.map f).foldl (fun sorted a => insertFromEnd before a sorted) (sorted.map f) =
        (l.foldl (fun sorted a => insertFromEnd (fun a b => before (f a) (f b)) a sorted)
          sorted).map f := by
    intro l
    induction l with
    | nil => intro sorted; rfl
    | cons a l ih =>
        intro sorted
        rw [List.map_cons, List.foldl_cons, List.foldl_cons, insertFromEnd_map, ih]
  unfold stableSort
  rw [List.map_reverse, ← hfold l []]
  rfl

theorem zip_map_self (f : α → β) (l : List α) : (l.map f).zip l = l.map fun a => (f a, a) := by
  have h : (l.map f).zip (l.map id) = l.map fun a => (f a, id a) := List.zip_map'
  rwa [List.map_id] at h

end Keyed

namespace Relation

variable {r r' : Relation}

/-! ## Stages on single rows -/

/-- Some of the rows under the same columns, in whatever order, are as wide as before. -/
theorem Shaped.of_subset (hr : r.Shaped) {rows : List Row} (h : rows ⊆ r.rows) :
    ({ r with rows } : Relation).Shaped :=
  fun row hrow => hr row (h hrow)

theorem Shaped.filter (hr : r.Shaped) {group : ConditionGroup} {types : ColumnTypes}
    (h : r.filter group types = .ok r') : r'.Shaped := by
  obtain ⟨bound, -, h⟩ := bind_eq_ok_iff.mp h
  cases h
  exact hr.of_subset (List.filter_subset_self _)

theorem lt_length_of_bindCondition {columns : List String} {types : ColumnTypes} {c : Condition}
    {bound : BoundCondition} (h : bindCondition columns types c = .ok bound) :
    bound.position < columns.length := by
  unfold bindCondition at h
  split at h
  next => contradiction
  next =>
    obtain ⟨i, hi, h⟩ := bind_eq_ok_iff.mp h
    obtain ⟨comparand, -, h⟩ := bind_eq_ok_iff.mp h
    cases h
    exact lt_length_of_position_eq_ok hi

theorem checkedFilter_eq (hr : r.Shaped) (group : ConditionGroup) (types : ColumnTypes) :
    r.checkedFilter group types = unchecked (r.filter group types) := by
  unfold checkedFilter filter
  refine unchecked_bind fun bound hbound => ?_
  have hholds : ∀ row ∈ r.rows, ∀ c ∈ bound, c.checkedHolds row = .ok (c.holds row) := by
    intro row hrow c hc
    obtain ⟨condition, -, hcondition⟩ := exists_mem_of_forall₂ (mapM_eq_ok_iff.mp hbound) hc
    have hlt := lt_length_of_bindCondition hcondition
    unfold BoundCondition.checkedHolds
    rw [readCell_eq_ok (hr row hrow ▸ hlt)]
    rfl
  rw [filterM_eq_ok_filter (p := fun row => group.connective.combine (bound.map (·.holds row)))]
  · rfl
  · intro row hrow
    rw [mapM_eq_ok_map (hholds row hrow)]
    rfl

/-- Distinct rows are the first of those that agree at some positions. -/
theorem distinct_eq_ok {columns : Option (List String)} (h : r.distinct columns = .ok r') :
    ∃ positions, r' = { r with rows := firstBy (cellsAt positions) r.rows } := by
  cases columns with
  | none =>
      cases h
      exact ⟨List.range r.columns.length, rfl⟩
  | some names =>
      obtain ⟨positions, -, h⟩ := bind_eq_ok_iff.mp h
      cases h
      exact ⟨positions, rfl⟩

theorem columns_of_distinct {columns : Option (List String)} (h : r.distinct columns = .ok r') :
    r'.columns = r.columns := by
  obtain ⟨positions, rfl⟩ := distinct_eq_ok h
  rfl

theorem Shaped.distinct (hr : r.Shaped) {columns : Option (List String)}
    (h : r.distinct columns = .ok r') : r'.Shaped := by
  obtain ⟨positions, rfl⟩ := distinct_eq_ok h
  exact hr.of_subset (firstBy_sublist _ _).subset

theorem checkedDistinct_eq (hr : r.Shaped) (columns : Option (List String)) :
    r.checkedDistinct columns = unchecked (r.distinct columns) := by
  have hkeys : ∀ positions : List Nat, (∀ i ∈ positions, i < r.columns.length) →
      (do
        let keys ← r.rows.mapM (readCells positions)
        return { r with rows := (firstBy (·.1) (keys.zip r.rows)).map (·.2) } : Checked Relation) =
        .ok { r with rows := firstBy (cellsAt positions) r.rows } := by
    intro positions hpositions
    rw [mapM_eq_ok_map (g := cellsAt positions), ok_bind, zip_map_self, firstBy_map, List.map_map]
    · exact congrArg (fun rows => Except.ok { r with rows }) (List.map_id _)
    · exact fun row hrow => readCells_eq_ok fun i hi => hr row hrow ▸ hpositions i hi
  unfold checkedDistinct distinct
  cases columns with
  | none => exact hkeys _ fun i hi => List.mem_range.mp hi
  | some names =>
      exact unchecked_bind fun positions hpositions =>
        hkeys positions fun i hi => lt_length_of_mapM_position hpositions hi

theorem Shaped.sort (hr : r.Shaped) {key : SortKey} (h : r.sort key = .ok r') : r'.Shaped := by
  obtain ⟨i, -, h⟩ := bind_eq_ok_iff.mp h
  cases h
  exact hr.of_subset (stableSort_perm _ _).subset

theorem checkedSort_eq (hr : r.Shaped) (key : SortKey) :
    r.checkedSort key = unchecked (r.sort key) := by
  unfold checkedSort sort
  refine unchecked_bind fun i hi => ?_
  have hlt := lt_length_of_position_eq_ok hi
  dsimp only
  rw [mapM_eq_ok_map fun row hrow => readCell_eq_ok (hr row hrow ▸ hlt), ok_bind, zip_map_self,
    stableSort_map, List.map_map]
  exact congrArg (fun rows => Except.ok { r with rows }) (List.map_id _)

theorem Shaped.project {items : List SelectItem} (h : r.project items = .ok r') : r'.Shaped := by
  obtain ⟨selected, -, h⟩ := bind_eq_ok_iff.mp h
  cases h
  intro row hrow
  obtain ⟨source, -, rfl⟩ := List.mem_map.mp hrow
  simp only [cellsAt, List.length_map]

/-- The positions that an item selects are positions of columns. -/
theorem lt_length_of_selectedColumns {columns : List String} {item : SelectItem}
    {selected : List (Nat × String)} (h : selectedColumns columns item = .ok selected)
    {column : Nat × String} (hcolumn : column ∈ selected) : column.1 < columns.length := by
  cases item with
  | star =>
      cases h
      exact List.mem_range.mp (List.of_mem_zip hcolumn).1
  | column name outputName =>
      obtain ⟨i, hi, h⟩ := bind_eq_ok_iff.mp h
      cases h
      rw [List.mem_singleton.mp hcolumn]
      exact lt_length_of_position_eq_ok hi
  | aggregate _ _ => contradiction

theorem checkedProject_eq (hr : r.Shaped) (items : List SelectItem) :
    r.checkedProject items = unchecked (r.project items) := by
  unfold checkedProject project
  refine unchecked_bind fun selected hselected => ?_
  have hlt : ∀ i ∈ selected.flatten.map (·.1), i < r.columns.length := by
    intro i hi
    obtain ⟨column, hcolumn, rfl⟩ := List.mem_map.mp hi
    obtain ⟨list, hlist, hcolumn⟩ := List.mem_flatten.mp hcolumn
    obtain ⟨item, -, hitem⟩ := exists_mem_of_forall₂ (mapM_eq_ok_iff.mp hselected) hlist
    exact lt_length_of_selectedColumns hitem hcolumn
  dsimp only
  rw [mapM_eq_ok_map fun row hrow => readCells_eq_ok fun i hi => hr row hrow ▸ hlt i hi]
  rfl

/-! ## Joining -/

/-- A table as wide as its schema says. -/
theorem shaped_ofTable {t : Table} (ht : t.Valid) : (ofTable t).Shaped := by
  intro row hrow
  rw [(ht.admits row hrow).length_eq]
  simp [ofTable, Schema.columnNames]

section Join

variable {t : Table} {kind : JoinKind} {left right qualifier : String}

/-- A row of a join is made of a row of each side, or of one side and nulls. -/
theorem length_of_mem_joinRow {others : List Row} {width : Nat}
    (hothers : ∀ other ∈ others, other.length = width) {keep : Bool} {i j : Nat} {row joined : Row}
    (h : joined ∈ joinRow others width keep i j row) : joined.length = row.length + width := by
  unfold joinRow at h
  split at h
  next =>
    split at h
    · rw [List.mem_singleton.mp h, List.length_append, nulls, List.length_replicate]
    · contradiction
  next =>
    obtain ⟨other, hother, rfl⟩ := List.mem_map.mp h
    rw [List.length_append, hothers other (List.mem_filter.mp hother).1]

theorem Shaped.join (hr : r.Shaped) (ht : (ofTable t).Shaped)
    (h : r.join t kind left right qualifier = .ok r') : r'.Shaped := by
  rw [join_eq] at h
  obtain ⟨i, -, h⟩ := bind_eq_ok_iff.mp h
  obtain ⟨j, -, h⟩ := bind_eq_ok_iff.mp h
  cases h
  intro row hrow
  rw [List.length_append, List.length_map]
  rcases List.mem_append.mp hrow with hrow | hrow
  · obtain ⟨source, hsource, hrow⟩ := List.mem_flatMap.mp hrow
    rw [length_of_mem_joinRow ht hrow, hr source hsource]
    rfl
  · split at hrow
    · obtain ⟨other, hother, rfl⟩ := List.mem_map.mp hrow
      rw [List.length_append, nulls, List.length_replicate, ht other (List.mem_filter.mp hother).1]
      rfl
    · contradiction

theorem checkedJoin_eq (hr : r.Shaped) (ht : (ofTable t).Shaped) (kind : JoinKind)
    (left right qualifier : String) :
    r.checkedJoin t kind left right qualifier =
      unchecked (r.join t kind left right qualifier) := by
  rw [join_eq]
  unfold checkedJoin
  refine unchecked_bind fun i hi => unchecked_bind fun j hj => ?_
  have hkeys : ∀ row ∈ r.rows, ∀ other ∈ t.rows, checkedKeysMatch i j row other =
      .ok (keysMatch (cellAt row i) (cellAt other j)) := by
    intro row hrow other hother
    unfold checkedKeysMatch
    rw [readCell_eq_ok (hr row hrow ▸ lt_length_of_position_eq_ok hi),
      readCell_eq_ok (ht other hother ▸ lt_length_of_position_eq_ok hj)]
    rfl
  have hjoined : ∀ row ∈ r.rows,
      checkedJoinRow t.rows t.schema.columnNames.length kind.keepsLeft i j row =
        .ok (joinRow t.rows t.schema.columnNames.length kind.keepsLeft i j row) := by
    intro row hrow
    unfold checkedJoinRow joinRow partners
    rw [filterM_eq_ok_filter (hkeys row hrow), ok_bind]
    generalize t.rows.filter _ = found
    cases found <;> rfl
  have hrest : checkedUnpartnered r.rows t.rows i j = .ok (unpartnered r.rows t.rows i j) := by
    refine filterM_eq_ok_filter fun other hother => ?_
    rw [mapM_eq_ok_map fun row hrow => hkeys row hrow other hother, ok_bind, List.any_map]
    rfl
  rw [mapM_eq_ok_map hjoined, hrest, ok_bind, ← List.flatMap_def]
  cases kind.keepsRight <;> rfl

end Join

/-! ## Grouping -/

/-- Groups are made of the rows that are grouped. -/
theorem subset_of_mem_groupsOf {positions : List Nat} {rows group : List Row}
    (h : group ∈ groupsOf positions rows) : group ⊆ rows := by
  unfold groupsOf at h
  split at h
  next => exact List.mem_singleton.mp h ▸ List.Subset.refl rows
  next =>
    obtain ⟨first, -, rfl⟩ := List.mem_map.mp h
    exact List.filter_subset_self _

theorem checkedGroupsOf_eq {positions : List Nat} {rows : List Row}
    (h : ∀ row ∈ rows, ∀ i ∈ positions, i < row.length) :
    checkedGroupsOf positions rows = .ok (groupsOf positions rows) := by
  unfold checkedGroupsOf groupsOf
  split
  next => rfl
  next =>
    rw [mapM_eq_ok_map fun row hrow => readCells_eq_ok (h row hrow), ok_bind, zip_map_self]
    dsimp only
    rw [firstBy_map, List.map_map]
    -- the rows with their keys are those of the group once the keys are dropped
    refine congrArg Except.ok (List.map_congr_left fun first _ => ?_)
    show List.map _ (List.filter _ (List.map _ rows)) = _
    rw [List.filter_map, List.map_map]
    exact List.map_id _

theorem checkedFold_eq (function : AggregateFunction) {position : Option Nat} {rows : List Row}
    (h : ∀ i ∈ position, ∀ row ∈ rows, i < row.length) :
    function.checkedFold position rows = unchecked (function.fold position rows) := by
  cases position with
  | none => cases function <;> rfl
  | some i =>
      have hvalues : checkedNonNullAt i rows = .ok (nonNullAt i rows) := by
        unfold checkedNonNullAt
        rw [mapM_eq_ok_map fun row hrow => readCell_eq_ok (h i rfl row hrow)]
        rfl
      cases function <;> simp only [AggregateFunction.checkedFold, hvalues] <;> rfl

section Group

variable {width : Nat} {g : BoundGrouping} {group : List Row}

theorem checkedRead_eq {source : CellSource} (hsource : source.Within width)
    (hgroup : ∀ row ∈ group, row.length = width) (computed : List (Aggregate × Value)) :
    source.checkedRead computed group = .ok (source.read computed group) := by
  cases source with
  | aggregate call => rfl
  | position i =>
      cases group with
      | nil => rfl
      | cons first rest =>
          have hlt : i < first.length := (hgroup first List.mem_cons_self).symm ▸ hsource
          exact readCell_eq_ok hlt

theorem checkedGroupRow_eq (hg : g.Within width) (hgroup : ∀ row ∈ group, row.length = width) :
    checkedGroupRow g.fields g.calls g.having group =
      unchecked (groupRow g.fields g.calls g.having group) := by
  have hcalls : (g.calls.mapM fun call => do
        return (call.1, ← call.1.function.checkedFold call.2 group)) =
      unchecked (g.calls.mapM fun call => do
        return (call.1, ← call.1.function.fold call.2 group)) := by
    refine mapM_eq_unchecked fun call hcall => ?_
    rw [checkedFold_eq _ fun i hi row hrow => hgroup row hrow ▸ hg.call call hcall i hi]
    exact unchecked_bind fun _ _ => rfl
  have hfields : ∀ computed, g.fields.mapM (·.source.checkedRead computed group) =
      .ok (g.fields.map (·.source.read computed group)) := fun computed =>
    mapM_eq_ok_map fun field hfield => checkedRead_eq (hg.field field hfield) hgroup computed
  unfold checkedGroupRow groupRow
  refine (congrArg (· >>= _) hcalls).trans ?_
  refine unchecked_bind fun computed _ => ?_
  rw [hfields]
  cases hhaving : g.having with
  | none => rfl
  | some having =>
      obtain ⟨connective, conditions⟩ := having
      have hholds : (conditions.mapM fun c => do
            return (← c.source.checkedRead computed group).satisfies c.comparison c.comparand) =
          .ok (conditions.map fun c =>
            (c.source.read computed group).satisfies c.comparison c.comparand) := by
        refine mapM_eq_ok_map fun c hc => ?_
        rw [checkedRead_eq (hg.condition _ hhaving c hc) hgroup computed]
        rfl
      dsimp only
      rw [hholds]
      simp only [ok_bind, pure_bind, Option.all_some]
      split <;> rfl

end Group

theorem Shaped.group {groupBy : List String} {items : List SelectItem}
    {having : Option ConditionGroup} {types : ColumnTypes}
    (h : r.group groupBy items having types = .ok r') : r'.Shaped := by
  obtain ⟨g, -, hcolumns, hrows⟩ := group_eq_ok h
  intro row hrow
  obtain ⟨read, rfl⟩ := hrows row hrow
  rw [hcolumns, List.length_map, List.length_map]

theorem checkedGroup_eq (hr : r.Shaped) (groupBy : List String) (items : List SelectItem)
    (having : Option ConditionGroup) (types : ColumnTypes) :
    r.checkedGroup groupBy items having types =
      unchecked (r.group groupBy items having types) := by
  rw [group_eq_bind]
  unfold checkedGroup
  refine unchecked_bind fun g hg => ?_
  have hwithin := within_of_bindGrouping hg
  rw [checkedGroupsOf_eq fun row hrow i hi => hr row hrow ▸ hwithin.position i hi, ok_bind,
    mapM_eq_unchecked fun group hgroup =>
      checkedGroupRow_eq hwithin fun row hrow => hr row (subset_of_mem_groupsOf hgroup hrow)]
  exact unchecked_bind fun _ _ => rfl

end Relation

end RelStore
