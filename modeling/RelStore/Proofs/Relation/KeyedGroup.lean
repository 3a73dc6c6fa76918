import RelStore.Proofs.Occurrence
import RelStore.Proofs.Relation.Grouping
import RelStore.Proofs.Relation.Typed
import RelStore.Relation.Project

/-!
# Grouping agrees with filtering

A grouping whose select list is the columns grouped by and then aggregates puts together two things
that the other stages do: the key of a group is what a projection makes of its rows, and its
aggregates are those of the rows that a filter on that key lets pass, in one group.

Membership of a group is equality of cells, a filter casts the key's values as literals and compares
in the sense of conditions.  On values of the columns' types the two are one, nulls included.
-/

namespace RelStore

/-- The columns grouped by, each with its name in the result, as items of a select list. -/
def keyItems (keys : List (String × String)) : List SelectItem :=
  keys.map fun key => .column key.1 key.2

/-- Aggregates, each with its name in the result, as items of a select list. -/
def callItems (calls : List (Aggregate × String)) : List SelectItem :=
  calls.map fun call => .aggregate call.1 call.2

/-- The conditions that each column grouped by has its value in the key. -/
def keyConditions (keys : List (String × String)) (key : List Value) : ConditionGroup :=
  ⟨.and, (keys.zip key).map fun (column, v) => ⟨.column column.1, .equal, v⟩⟩

/-- The position of the column that a name means, for a name that means one. -/
def positionOf (columns : List String) (name : String) : Nat :=
  (position? columns name).getD 0

variable {columns : List String} {types : ColumnTypes} {keys : List (String × String)}
  {calls : List (Aggregate × String)} {g : BoundGrouping}

theorem eq_positionOf {name : String} {i : Nat} (h : position columns name = .ok i) :
    i = positionOf columns name := by
  unfold positionOf
  rw [position_eq_ok_iff.mp h, Option.getD_some]

/-- Names that are all found are found where they mean. -/
theorem of_mapM_position {names : List String} {positions : List Nat}
    (h : names.mapM (position columns) = .ok positions) :
    (∀ name ∈ names, position columns name = .ok (positionOf columns name)) ∧
      positions = names.map (positionOf columns) := by
  have hname : ∀ name ∈ names, position columns name = .ok (positionOf columns name) := by
    intro name hmem
    obtain ⟨i, -, hi⟩ := exists_mem_of_forall₂ (mapM_eq_ok_iff.mp h).flip hmem
    rw [← eq_positionOf hi]
    exact hi
  refine ⟨hname, ?_⟩
  rw [mapM_eq_ok_map hname] at h
  exact (Except.ok.inj h).symm

/-! ## Binding -/

/-- Positions ask for no aggregate. -/
theorem neededAggregates_append (positions : List Nat) (sources : List CellSource) :
    neededAggregates (positions.map .position ++ sources) = neededAggregates sources := by
  unfold neededAggregates
  rw [List.filterMap_append, List.filterMap_map]
  simp

/-- The columns of the result that hold the keys. -/
def keyFields (columns : List String) (types : ColumnTypes) (keys : List (String × String)) :
    List OutputField :=
  keys.map fun key =>
    ⟨key.2, .position (positionOf columns key.1), columnType? types columns key.1⟩

/-- The columns of the result that hold the aggregates. -/
def callFields (columns : List String) (types : ColumnTypes) (calls : List (Aggregate × String)) :
    List OutputField :=
  calls.map fun call =>
    ⟨call.2, .aggregate call.1, GroupingContext.aggregateType? ⟨columns, types, [], []⟩ call.1⟩

theorem fields_keyItems {groupBy : List String}
    (h : ∀ key ∈ keys, position columns key.1 = .ok (positionOf columns key.1)) :
    (keyItems keys).mapM (GroupingContext.fields
        ⟨columns, types, groupBy, keys.map (positionOf columns ·.1)⟩) =
      .ok ((keyFields columns types keys).map ([·])) := by
  rw [mapM_eq_ok_iff]
  unfold keyItems keyFields
  rw [List.map_map, List.forall₂_map_right_iff, List.forall₂_map_left_iff, List.forall₂_same]
  intro key hkey
  have hmem : positionOf columns key.1 ∈ keys.map (positionOf columns ·.1) :=
    List.mem_map_of_mem hkey
  show (position columns key.1 >>= _) = _
  rw [h key hkey, ok_bind, if_pos hmem]
  rfl

theorem fields_callItems (groupBy : List String) (positions : List Nat) :
    (callItems calls).mapM (GroupingContext.fields ⟨columns, types, groupBy, positions⟩) =
      .ok ((callFields columns types calls).map ([·])) := by
  rw [mapM_eq_ok_iff]
  unfold callItems callFields
  rw [List.map_map, List.forall₂_map_right_iff, List.forall₂_map_left_iff, List.forall₂_same]
  exact fun _ _ => rfl

theorem flatten_map_singleton {α : Type} (l : List α) : (l.map ([·])).flatten = l := by
  rw [← List.flatMap_def, List.flatMap_singleton']

/-- **Grouping by keys binds to the positions of the keys and to the aggregates**, which are bound
as without the keys. -/
theorem bindGrouping_keys
    (h : bindGrouping columns (keys.map (·.1)) (keyItems keys ++ callItems calls) none types =
      .ok g) :
    (∀ key ∈ keys, position columns key.1 = .ok (positionOf columns key.1)) ∧
      g.positions = keys.map (positionOf columns ·.1) ∧ g.having = none ∧
      g.fields = keyFields columns types keys ++ callFields columns types calls ∧
      bindGrouping columns [] (callItems calls) none types =
        .ok ⟨[], callFields columns types calls, none, g.calls⟩ := by
  obtain ⟨hpositions, ⟨fieldLists, hfields, hflatten⟩, hhaving, hcalls⟩ := bindGrouping_eq_ok h
  obtain ⟨hname, hpositions⟩ := of_mapM_position hpositions
  rw [List.map_map] at hpositions
  have hkey : ∀ key ∈ keys, position columns key.1 = .ok (positionOf columns key.1) :=
    fun key hkey => hname key.1 (List.mem_map_of_mem hkey)
  have hposition : g.positions = keys.map (positionOf columns ·.1) := hpositions
  have hnone : g.having = none := (Except.ok.inj hhaving).symm
  have hg : g.fields = keyFields columns types keys ++ callFields columns types calls := by
    rw [hposition, List.mapM_append, fields_keyItems hkey, fields_callItems, ok_bind, ok_bind]
      at hfields
    rw [hflatten, ← Except.ok.inj hfields, List.flatten_append, flatten_map_singleton,
      flatten_map_singleton]
  refine ⟨hkey, hposition, hnone, hg, ?_⟩
  -- the keys ask for no aggregate, so the same ones are needed without them
  have hsources : (keyFields columns types keys).map (·.source) =
      (keys.map (positionOf columns ·.1)).map .position := by
    unfold keyFields
    rw [List.map_map, List.map_map]
    rfl
  rw [hg, hnone, List.map_append, List.append_assoc, hsources, neededAggregates_append] at hcalls
  unfold bindGrouping
  rw [List.mapM_nil, pure_bind]
  dsimp only
  rw [fields_callItems, ok_bind, flatten_map_singleton, Option.mapM_none, pure_bind, hcalls]
  rfl

/-! ## Filtering by a key -/

namespace Relation

variable {r result : Relation}

/-- Of rows that have the declared types, the filter on a row's key keeps those of the same key. -/
theorem filter_keyConditions (hr : r.Typed types)
    (hkeys : ∀ key ∈ keys, position r.columns key.1 = .ok (positionOf r.columns key.1))
    {positions : List Nat} (hpositions : positions = keys.map (positionOf r.columns ·.1))
    {first : Row} (hfirst : first ∈ r.rows) :
    r.filter (keyConditions keys (cellsAt positions first)) types = .ok { r with
      rows := r.rows.filter fun row => cellsAt positions row = cellsAt positions first } := by
  subst hpositions
  have hconditions : (keyConditions keys
      (cellsAt (keys.map (positionOf r.columns ·.1)) first)).conditions =
      keys.map fun key => ⟨.column key.1, .equal, cellAt first (positionOf r.columns key.1)⟩ := by
    unfold keyConditions cellsAt
    rw [List.map_map]
    dsimp only
    rw [← List.map_prod_left_eq_zip, List.map_map]
    rfl
  -- casting leaves the values of the key as they are
  have hbound : (keyConditions keys
      (cellsAt (keys.map (positionOf r.columns ·.1)) first)).conditions.mapM
      (bindCondition r.columns types) = .ok (keys.map fun key =>
        ⟨positionOf r.columns key.1, .equal, cellAt first (positionOf r.columns key.1)⟩) := by
    rw [hconditions, mapM_eq_ok_iff, List.forall₂_map_right_iff, List.forall₂_map_left_iff,
      List.forall₂_same]
    intro key hkey
    obtain ⟨type, htype, hholds⟩ := hr _ (lt_length_of_position_eq_ok (hkeys key hkey))
    show (position r.columns key.1 >>= _) = _
    rw [hkeys key hkey, ok_bind, htype]
    show (type.castComparand _ >>= _) = _
    rw [ColumnType.castComparand_of_holds (hholds first hfirst)]
    rfl
  have hsame : ∀ row ∈ r.rows, ∀ key ∈ keys,
      (cellAt row (positionOf r.columns key.1)).satisfies .equal
          (cellAt first (positionOf r.columns key.1)) = true ↔
        cellAt row (positionOf r.columns key.1) = cellAt first (positionOf r.columns key.1) := by
    intro row hrow key hkey
    obtain ⟨type, -, hholds⟩ := hr _ (lt_length_of_position_eq_ok (hkeys key hkey))
    exact satisfies_equal_iff (hholds row hrow) (hholds first hfirst)
  unfold filter
  rw [hbound, ok_bind]
  refine congrArg (fun rows => Except.ok { r with rows }) (List.filter_congr fun row hrow => ?_)
  rw [Bool.eq_iff_iff, decide_eq_true_iff]
  show (List.map _ (List.map _ keys)).all id = true ↔ List.map _ (List.map _ keys) = List.map _ _
  rw [List.map_map, List.all_eq_true, List.forall_mem_map, List.map_map, List.map_map,
    List.map_inj_left]
  exact forall₂_congr (hsame row hrow)

/-! ## Groups and keys -/

/-- A group has the key of each of its rows in the columns of its key. -/
theorem map_read_position {positions : List Nat} {first : Row} {rows : List Row}
    (hfirst : first ∈ rows) (computed : List (Aggregate × Value)) :
    positions.map (fun i => CellSource.read computed
      (rows.filter fun row => cellsAt positions row = cellsAt positions first) (.position i)) =
      cellsAt positions first := by
  have hmem : first ∈ rows.filter fun row => cellsAt positions row = cellsAt positions first :=
    List.mem_filter.mpr ⟨hfirst, by simp⟩
  cases hgroup : rows.filter fun row => cellsAt positions row = cellsAt positions first with
  | nil => simp [hgroup] at hmem
  | cons head rest =>
      have hhead : head ∈ rows.filter fun row => cellsAt positions row = cellsAt positions first :=
        hgroup ▸ List.mem_cons_self
      exact of_decide_eq_true (List.mem_filter.mp hhead).2

/-- The row of a group begins with its key and goes on with what its aggregates alone would be. -/
theorem groupRow_keys {positions : List Nat} {fields : List OutputField} {rows : List Row}
    {first : Row} (hfirst : first ∈ rows) (hhaving : g.having = none)
    (hfields : g.fields.map (·.source) = positions.map .position ++ fields.map (·.source))
    {row? : Option Row}
    (h : groupRow g.fields g.calls g.having
      (rows.filter fun row => cellsAt positions row = cellsAt positions first) = .ok row?) :
    ∃ aggregated, row? = some (cellsAt positions first ++ aggregated) ∧
      groupRow fields g.calls none
        (rows.filter fun row => cellsAt positions row = cellsAt positions first) =
        .ok (some aggregated) := by
  rw [hhaving] at h
  unfold groupRow at h ⊢
  obtain ⟨computed, hcomputed, h⟩ := bind_eq_ok_iff.mp h
  cases h
  refine ⟨_, ?_, by rw [hcomputed]; rfl⟩
  have hread := congrArg (List.map (CellSource.read computed
    (rows.filter fun row => cellsAt positions row = cellsAt positions first))) hfields
  rw [List.map_append, List.map_map, List.map_map, List.map_map] at hread
  exact congrArg some (hread.trans (congrArg (· ++ _) (map_read_position hfirst computed)))

theorem project_keyItems
    (hkeys : ∀ key ∈ keys, position r.columns key.1 = .ok (positionOf r.columns key.1)) :
    r.project (keyItems keys) =
      .ok ⟨keys.map (·.2), r.rows.map (cellsAt (keys.map (positionOf r.columns ·.1)))⟩ := by
  have hselected : (keyItems keys).mapM (selectedColumns r.columns) =
      .ok (keys.map fun key => [(positionOf r.columns key.1, key.2)]) := by
    unfold keyItems
    rw [mapM_eq_ok_iff, List.forall₂_map_right_iff, List.forall₂_map_left_iff, List.forall₂_same]
    intro key hkey
    show (position r.columns key.1 >>= _) = _
    rw [hkeys key hkey]
    rfl
  unfold project
  rw [hselected, ok_bind, ← List.flatMap_def, ← List.map_eq_flatMap]
  dsimp only
  rw [List.map_map, List.map_map]
  rfl

/-- One group that is aggregated is one row. -/
theorem group_callItems {calls : List (Aggregate × Option Nat)} {items : List SelectItem}
    {fields : List OutputField}
    (h : bindGrouping columns [] items none types = .ok ⟨[], fields, none, calls⟩)
    {rows : List Row} {row : Row} (hrow : groupRow fields calls none rows = .ok (some row)) :
    group ⟨columns, rows⟩ [] items none types = .ok ⟨fields.map (·.name), [row]⟩ := by
  rw [group_eq_bind, h, ok_bind]
  show (List.mapM _ [rows] >>= _) = _
  rw [List.mapM_cons, hrow]
  rfl

/-- **A grouping by keys agrees with filtering.**  Its rows are the different keys in the order of
their first rows, each followed by the one row of aggregates that the rows yield which the filter on
the key lets pass. -/
theorem forall₂_group_keys (hr : r.Typed types) (hne : keys ≠ [])
    (h : r.group (keys.map (·.1)) (keyItems keys ++ callItems calls) none types = .ok result) :
    result.columns = keys.map (·.2) ++ calls.map (·.2) ∧
      ∃ projected, r.project (keyItems keys) = .ok projected ∧
        List.Forall₂ (fun key row => ∃ filtered aggregated,
            r.filter (keyConditions keys key) types = .ok filtered ∧
            filtered.group [] (callItems calls) none types =
              .ok ⟨calls.map (·.2), [aggregated]⟩ ∧
            row = key ++ aggregated)
          projected.rows.eraseDups result.rows := by
  rw [group_eq_bind] at h
  obtain ⟨g, hg, h⟩ := bind_eq_ok_iff.mp h
  obtain ⟨rows?, hrows, h⟩ := bind_eq_ok_iff.mp h
  cases h
  obtain ⟨hkeys, hpositions, hhaving, hfields, hcalls⟩ := bindGrouping_keys hg
  have hname : (callFields r.columns types calls).map (·.name) = calls.map (·.2) := by
    unfold callFields
    rw [List.map_map]
    rfl
  have hsource : g.fields.map (·.source) =
      g.positions.map .position ++ (callFields r.columns types calls).map (·.source) := by
    rw [hfields, hpositions, List.map_append]
    unfold keyFields
    rw [List.map_map, List.map_map]
    rfl
  refine ⟨?_, _, project_keyItems hkeys, ?_⟩
  · rw [hfields, List.map_append, hname]
    unfold keyFields
    rw [List.map_map]
    rfl
  dsimp only
  rw [← hpositions, ← map_firstBy, List.forall₂_map_left_iff]
  have hgroups : groupsOf g.positions r.rows = groupRows g.positions r.rows := by
    unfold groupsOf
    rw [if_neg]
    simpa [hpositions] using hne
  rw [hgroups, mapM_eq_ok_iff, groupRows, List.forall₂_map_left_iff] at hrows
  refine forall₂_filterMap_id hrows fun first hfirst row? hrow => ?_
  have hmem := mem_of_mem_firstBy hfirst
  obtain ⟨aggregated, rfl, halone⟩ := groupRow_keys hmem hhaving hsource hrow
  refine ⟨_, rfl, _, aggregated, filter_keyConditions hr hkeys hpositions hmem, ?_, rfl⟩
  rw [← hname]
  exact group_callItems hcalls halone

end Relation

end RelStore
