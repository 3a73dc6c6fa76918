import RelStore.Proofs.Plan.Answer
import RelStore.Proofs.Relation.Groups
import RelStore.Proofs.Relation.KeyedGroup
import RelStore.Proofs.Relation.Layout

/-!
# Distinct rows and the keys of groups

Columns can be made distinct or grouped by.  Distinct rows are the first ones of their values in the
columns, projected afterwards (`Relation.distinct_project_eq_ok_iff`); the groups stand in the order
of their first rows, and the values in the columns are read from the groups
(`Relation.group_count_eq_ok_iff`).  Either succeeds just if all columns are found, and both yield
the values of the same rows.

| step | distinct | grouped |
| --- | --- | --- |
| rows | `firstBy (cellsAt positions)` | `groupRows positions` |
| values | of the row, by a projection | of the first row of the group |
| columns | as selected | as selected, then the count |
-/

namespace RelStore

variable {columns : List String} {types : ColumnTypes} {keys : List (String × String)}
  {out : String}

/-- Columns, each with its name in the result, and the number of rows behind them. -/
def countedItems (keys : List (String × String)) (out : String) : List SelectItem :=
  keyItems keys ++ callItems [(⟨.count, none⟩, out)]

/-- Every column is found. -/
def KeysFound (columns : List String) (keys : List (String × String)) : Prop :=
  ∀ key ∈ keys, position columns key.1 = .ok (positionOf columns key.1)

/-- The positions of the columns. -/
def keyPositions (columns : List String) (keys : List (String × String)) : List Nat :=
  keys.map (positionOf columns ·.1)

theorem mapM_position_keys_eq_ok_iff {positions : List Nat} :
    (keys.map (·.1)).mapM (position columns) = .ok positions ↔
      KeysFound columns keys ∧ positions = keyPositions columns keys := by
  constructor
  · intro h
    obtain ⟨hname, rfl⟩ := of_mapM_position h
    refine ⟨fun key hkey => hname key.1 (List.mem_map_of_mem hkey), ?_⟩
    unfold keyPositions
    rw [List.map_map]
    rfl
  · rintro ⟨hfound, rfl⟩
    rw [mapM_eq_ok_iff, List.forall₂_map_left_iff]
    unfold keyPositions
    rw [List.forall₂_map_right_iff, List.forall₂_same]
    exact hfound

/-- The grouping that counts the rows behind the values of columns. -/
def countGrouping (columns : List String) (types : ColumnTypes) (keys : List (String × String))
    (out : String) : BoundGrouping where
  positions := keyPositions columns keys
  fields := keyFields columns types keys ++ callFields columns types [(⟨.count, none⟩, out)]
  having := none
  calls := [(⟨.count, none⟩, none)]

/-- Counting by columns is bound if all columns are found. -/
theorem bindGrouping_count (h : KeysFound columns keys) :
    bindGrouping columns (keys.map (·.1)) (countedItems keys out) none types =
      .ok (countGrouping columns types keys out) := by
  have hfields : (countedItems keys out).mapM (GroupingContext.fields
        ⟨columns, types, keys.map (·.1), keyPositions columns keys⟩) =
      .ok ((keyFields columns types keys ++
        callFields columns types [(⟨.count, none⟩, out)]).map ([·])) := by
    unfold countedItems keyPositions
    rw [List.mapM_append, fields_keyItems h, fields_callItems, ok_bind, ok_bind, List.map_append]
    rfl
  have hsources : (keyFields columns types keys ++
      callFields columns types [(⟨.count, none⟩, out)]).map (·.source) =
      (keyPositions columns keys).map .position ++ [.aggregate ⟨.count, none⟩] := by
    unfold keyFields keyPositions
    rw [List.map_append, List.map_map, List.map_map]
    rfl
  unfold bindGrouping
  rw [mapM_position_keys_eq_ok_iff.mpr ⟨h, rfl⟩, ok_bind]
  dsimp only
  rw [hfields, ok_bind, flatten_map_singleton, Option.mapM_none, pure_bind, hsources]
  dsimp only [Option.map_none, Option.getD_none]
  rw [List.map_nil, List.append_nil, neededAggregates_append]
  rfl

theorem map_name_countGrouping :
    (countGrouping columns types keys out).fields.map (·.name) = keys.map (·.2) ++ [out] := by
  unfold countGrouping keyFields callFields
  rw [List.map_append, List.map_map, List.map_map]
  rfl

/-- A group becomes its values in the columns, and the number of its rows. -/
theorem rowOf_countGrouping {first : Row} {rows : List Row} (hfirst : first ∈ rows) :
    (countGrouping columns types keys out).rowOf
        (groupOf (keyPositions columns keys) rows first) =
      cellsAt (keyPositions columns keys) first ++
        [.integer (.ofNat (groupOf (keyPositions columns keys) rows first).length)] := by
  have hkeys : ∀ computed, (keyFields columns types keys).map (fun field =>
      field.source.read computed (groupOf (keyPositions columns keys) rows first)) =
      cellsAt (keyPositions columns keys) first := by
    intro computed
    refine Eq.trans ?_ (Relation.map_read_position hfirst computed)
    unfold keyFields keyPositions
    rw [List.map_map, List.map_map]
    rfl
  unfold BoundGrouping.rowOf
  show List.map _ (keyFields columns types keys ++ _) = _
  rw [List.map_append, hkeys]
  rfl

namespace Relation

variable {r result : Relation}

/-- The different values of the columns, in the order in which they first occur, each with the
number of rows that have them. -/
def countedKeys (r : Relation) (keys : List (String × String)) (out : String) : Relation :=
  ⟨keys.map (·.2) ++ [out],
    (firstBy (cellsAt (keyPositions r.columns keys)) r.rows).map fun first =>
      cellsAt (keyPositions r.columns keys) first ++
        [.integer (.ofNat (groupOf (keyPositions r.columns keys) r.rows first).length)]⟩

/-- The different values of the columns, in the order in which they first occur. -/
def distinctKeys (r : Relation) (keys : List (String × String)) : Relation :=
  ⟨keys.map (·.2), (firstBy (cellsAt (keyPositions r.columns keys)) r.rows).map
    (cellsAt (keyPositions r.columns keys))⟩

theorem dropLast_columns_countedKeys (r : Relation) :
    (r.countedKeys keys out).columns.dropLast = (r.distinctKeys keys).columns :=
  List.dropLast_concat

theorem map_dropLast_rows_countedKeys (r : Relation) :
    (r.countedKeys keys out).rows.map List.dropLast = (r.distinctKeys keys).rows := by
  unfold countedKeys distinctKeys
  rw [List.map_map]
  exact List.map_congr_left fun first _ => List.dropLast_concat

/-- **Counting by columns answers their different values with counts**, if all columns are found. -/
theorem group_count_eq_ok_iff (hne : keys ≠ []) :
    r.group (keys.map (·.1)) (countedItems keys out) none types = .ok result ↔
      KeysFound r.columns keys ∧ result = r.countedKeys keys out := by
  have hanswer : KeysFound r.columns keys →
      r.group (keys.map (·.1)) (countedItems keys out) none types =
        .ok (r.countedKeys keys out) := by
    intro hfound
    have hpositions : keyPositions r.columns keys ≠ [] := by
      simpa [keyPositions] using hne
    have hbound : bindGrouping r.columns (keys.map (·.1)) (countedItems keys out) none types =
        .ok (countGrouping r.columns types keys out) := bindGrouping_count hfound
    refine group_none_eq_ok_iff.mpr ⟨_, hbound, fun _ _ => rfl, congr_arg₂ Relation.mk ?_ ?_⟩
    · rw [← map_name_of_lays (lays_of_bindGrouping hbound), map_name_countGrouping]
    · show _ = (groupsOf (keyPositions r.columns keys) r.rows).map _
      rw [groupsOf_of_ne_nil hpositions, groupRows_eq_map, List.map_map]
      refine List.map_congr_left fun first hfirst => ?_
      exact (rowOf_countGrouping (mem_of_mem_firstBy hfirst)).symm
  refine ⟨fun h => ?_, fun ⟨hfound, hresult⟩ => hresult ▸ hanswer hfound⟩
  rw [group_eq_bind] at h
  obtain ⟨g, hg, -⟩ := bind_eq_ok_iff.mp h
  have hfound : KeysFound r.columns keys := (bindGrouping_keys hg).1
  rw [← group_eq_bind, hanswer hfound] at h
  exact ⟨hfound, (Except.ok.inj h).symm⟩

/-- **Columns made distinct have their different values**, if all columns are found. -/
theorem distinct_project_eq_ok_iff :
    (r.distinct (some (keys.map (·.1))) >>= fun s => s.project (keyItems keys)) = .ok result ↔
      KeysFound r.columns keys ∧ result = r.distinctKeys keys := by
  have hanswer : KeysFound r.columns keys →
      ({ r with rows := firstBy (cellsAt (keyPositions r.columns keys)) r.rows }).project
          (keyItems keys) = .ok (r.distinctKeys keys) := fun hfound => project_keyItems hfound
  unfold distinct
  dsimp only
  rw [bind_assoc, bind_eq_ok_iff]
  simp only [mapM_position_keys_eq_ok_iff, pure_bind]
  constructor
  · rintro ⟨_, ⟨hfound, rfl⟩, h⟩
    exact ⟨hfound, (Except.ok.inj ((hanswer hfound).symm.trans h)).symm⟩
  · rintro ⟨hfound, rfl⟩
    exact ⟨_, ⟨hfound, rfl⟩, hanswer hfound⟩

end Relation

/-! ## The queries -/

namespace Query

/-- The query for the different values of columns. -/
def distinctQuery (source : TableReference) (joins : List Join) (filter : Option ConditionGroup)
    (keys : List (String × String)) : Query :=
  { distinct := true, items := keyItems keys, source, joins, filter, groupBy := none
    having := none, orderBy := none, limit := none, offset := none }

/-- The query for the values of columns that are grouped by, with the number of rows behind them. -/
def countedQuery (source : TableReference) (joins : List Join) (filter : Option ConditionGroup)
    (keys : List (String × String)) (out : String) : Query :=
  { distinct := false, items := countedItems keys out, source, joins, filter
    groupBy := some (keys.map (·.1)), having := none, orderBy := none, limit := none
    offset := none }

variable {source : TableReference} {joins : List Join} {filter : Option ConditionGroup}

theorem sourceNames_keyItems (keys : List (String × String)) :
    (keyItems keys).mapM (·.sourceName?) = some (keys.map (·.1)) := by
  unfold keyItems
  induction keys with
  | nil => rfl
  | cons key keys ih => rw [List.map_cons, List.mapM_cons, ih]; rfl

theorem present_distinctQuery (hne : keys ≠ []) (r : Relation) :
    (distinctQuery source joins filter keys).present types r =
      r.distinct (some (keys.map (·.1))) >>= fun s => s.project (keyItems keys) := by
  have hpresentation : (distinctQuery source joins filter keys).presentation types =
      .projected (keyItems keys) := by
    cases keys with
    | nil => contradiction
    | cons key keys => rfl
  unfold present
  rw [hpresentation, ← sourceNames_keyItems]
  show (r.distinct _ >>= fun s => _) >>= _ = _
  rw [bind_assoc]
  rfl

theorem present_countedQuery (hne : keys ≠ []) (r : Relation) :
    (countedQuery source joins filter keys out).present types r =
      r.group (keys.map (·.1)) (countedItems keys out) none types := by
  have hpresentation : (countedQuery source joins filter keys out).presentation types =
      .grouped (keys.map (·.1)) (countedItems keys out) none types := by
    cases keys with
    | nil => contradiction
    | cons key keys => rfl
  unfold present
  rw [hpresentation]
  exact bind_pure _

/-- **Distinct rows are the groups without what is counted in them.** -/
theorem answer_distinctQuery {c : Catalog} (hne : keys ≠ []) {r : Relation} :
    (distinctQuery source joins filter keys).answer c = .ok r ↔
      ∃ counted, (countedQuery source joins filter keys out).answer c = .ok counted ∧
        r.columns = counted.columns.dropLast ∧ r.rows = counted.rows.map List.dropLast := by
  have hdistinct : ¬ (distinctQuery source joins filter keys).AggregatesAll := by
    rintro ⟨-, haggregate⟩
    obtain ⟨item, hitem, hisAggregate⟩ := List.any_eq_true.mp haggregate
    obtain ⟨key, -, rfl⟩ := List.mem_map.mp hitem
    contradiction
  have hcounted : ¬ (countedQuery source joins filter keys out).AggregatesAll :=
    fun h => Option.some_ne_none _ h.1
  rw [answer_eq_ok_iff hdistinct]
  simp only [answer_eq_ok_iff hcounted, present_distinctQuery hne, present_countedQuery hne,
    Relation.distinct_project_eq_ok_iff, Relation.group_count_eq_ok_iff hne]
  constructor
  · rintro ⟨types, selected, hselects, hfound, rfl⟩
    refine ⟨selected.countedKeys keys out,
      ⟨types, selected, hselects.of_having_none rfl rfl rfl rfl, hfound, rfl⟩, ?_⟩
    rw [selected.dropLast_columns_countedKeys, selected.map_dropLast_rows_countedKeys]
    exact ⟨rfl, rfl⟩
  · rintro ⟨_, ⟨types, selected, hselects, hfound, rfl⟩, hcolumns, hrows⟩
    rw [selected.dropLast_columns_countedKeys] at hcolumns
    rw [selected.map_dropLast_rows_countedKeys] at hrows
    refine ⟨types, selected, hselects.of_having_none rfl rfl rfl rfl, hfound, ?_⟩
    exact congr_arg₂ Relation.mk hcolumns hrows

/-- Columns of a joined table, one of them selected twice, with rows that have no partner: the nulls
of different rows are one value. -/
theorem answer_distinctQuery_unpartnered :
    let statements := ["CREATE TABLE t (k INT, a INT)", "CREATE TABLE u (a INT, b TEXT)",
      "INSERT INTO t (k, a) VALUES (1, 1)", "INSERT INTO t (k, a) VALUES (2, null)",
      "INSERT INTO t (k, a) VALUES (1, 1)", "INSERT INTO t (k, a) VALUES (2, 5)",
      "INSERT INTO u (a, b) VALUES (1, 'x')"]
    let c := (Session.executeAll ∅ statements).2
    let joins : List Join := [⟨"u", .left, "a", "u.a", "t", "u"⟩]
    let keys := [("u.b", "b"), ("k", "k"), ("b", "c")]
    (countedQuery ⟨"t", none⟩ joins none keys "n").answer c = .ok ⟨["b", "k", "c", "n"],
        [[.text "x", .integer 1, .text "x", .integer 2],
          [.null, .integer 2, .null, .integer 2]]⟩ ∧
      (distinctQuery ⟨"t", none⟩ joins none keys).answer c = .ok ⟨["b", "k", "c"],
        [[.text "x", .integer 1, .text "x"], [.null, .integer 2, .null]]⟩ := by
  intro statements c joins keys
  have hc : c = ⟨.ofList [("t", ⟨⟨"t", [⟨"k", .integer⟩, ⟨"a", .integer⟩], none⟩,
        [[.integer 1, .integer 1], [.integer 2, .null], [.integer 1, .integer 1],
          [.integer 2, .integer 5]]⟩),
      ("u", ⟨⟨"u", [⟨"a", .integer⟩, ⟨"b", .text⟩], none⟩, [[.integer 1, .text "x"]]⟩)]⟩ := by
    decide +kernel
  have hcounted : (countedQuery ⟨"t", none⟩ joins none keys "n").answer c =
      .ok ⟨["b", "k", "c", "n"], [[.text "x", .integer 1, .text "x", .integer 2],
        [.null, .integer 2, .null, .integer 2]]⟩ := by
    rw [hc]
    decide +kernel
  exact ⟨hcounted, (answer_distinctQuery (by decide)).mpr ⟨_, hcounted, rfl, rfl⟩⟩

end Query

end RelStore
