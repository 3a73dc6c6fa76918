import RelStore.Plan.OfStatement
import RelStore.Proofs.Relation.Grouping

/-!
# What a grouping answers

The result of a grouping has a column for each item of the select list, once every star stands for
the columns grouped by (`laidOut`).  What the column bears and reads is said item by item
(`Lays`), and the columns of a grouping that is bound are those of the items in their order
(`lays_of_bindGrouping`).

| item | name | values | type |
| --- | --- | --- | --- |
| column | as selected | of the column, which is grouped by | of the column |
| least, greatest of a column | as selected | of the aggregate | of the column |
| other aggregate | as selected | of the aggregate | none |

The groups that the conditions hold of become one row each, in their order, if every aggregate has a
value in every group (`Relation.group_eq_ok_iff`).  After this no proof has to follow a grouping
through its steps again.
-/

namespace RelStore

/-! ## The columns of the result -/

/-- The select list with the columns grouped by in place of every star. -/
def laidOut (groupBy : List String) (items : List SelectItem) : List SelectItem :=
  items.flatMap fun
    | .star => groupBy.map fun name => .column name name
    | item => [item]

/-- The names of the result's columns. -/
def outputNames (groupBy : List String) (items : List SelectItem) : List String :=
  (laidOut groupBy items).filterMap (·.outputName?)

/-- The declared type of the values that an item selects, if they have one: those of a column have
its type, and so have the least and the greatest of them. -/
def SelectItem.valueType? (types : ColumnTypes) (columns : List String) :
    SelectItem → Option ColumnType
  | star => none
  | column name _ => columnType? types columns name
  | aggregate ⟨.min, name⟩ _ => name.bind (columnType? types columns)
  | aggregate ⟨.max, name⟩ _ => name.bind (columnType? types columns)
  | aggregate _ _ => none

/-- The column of a result that an item lays out, where the columns at the positions are grouped
by. -/
inductive Lays (columns : List String) (types : ColumnTypes) (positions : List Nat) :
    SelectItem → OutputField → Prop
  | column {name : String} {i : Nat} (hi : position columns name = .ok i) (hgrouped : i ∈ positions)
      (outputName : String) :
      Lays columns types positions (.column name outputName)
        ⟨outputName, .position i, columnType? types columns name⟩
  | aggregate (call : Aggregate) (outputName : String) :
      Lays columns types positions (.aggregate call outputName)
        ⟨outputName, .aggregate call,
          (SelectItem.aggregate call outputName).valueType? types columns⟩

variable {columns groupBy : List String} {types : ColumnTypes} {items : List SelectItem}
  {having : Option ConditionGroup} {positions : List Nat} {g : BoundGrouping}

/-- An aggregate has one type in the layout and in conditions. -/
theorem aggregateType?_eq (call : Aggregate) (outputName : String) :
    GroupingContext.aggregateType? ⟨columns, types, groupBy, positions⟩ call =
      (SelectItem.aggregate call outputName).valueType? types columns := by
  obtain ⟨function, column⟩ := call
  cases function <;> rfl

theorem Lays.outputName?_eq {item : SelectItem} {field : OutputField}
    (h : Lays columns types positions item field) : item.outputName? = some field.name := by
  cases h <;> rfl

theorem Lays.type_eq {item : SelectItem} {field : OutputField}
    (h : Lays columns types positions item field) : field.type = item.valueType? types columns := by
  cases h <;> rfl

/-- The columns grouped by are laid out where they are found. -/
theorem forall₂_lays_names {names : List String} {found : List Nat}
    (h : List.Forall₂ (fun name i => position columns name = .ok i) names found)
    (hgrouped : found ⊆ positions) :
    List.Forall₂ (Lays columns types positions) (names.map fun name => .column name name)
      ((names.zip found).map fun (name, i) =>
        ⟨name, .position i, columnType? types columns name⟩) := by
  induction h with
  | nil => exact .nil
  | cons hi _ ih =>
      obtain ⟨hhead, hrest⟩ := List.cons_subset.mp hgrouped
      exact .cons (.column hi hhead _) (ih hrest)

/-- What an item asks for is laid out by the items that it stands for. -/
theorem forall₂_lays_fields {item : SelectItem} {fields : List OutputField}
    (hpositions : groupBy.mapM (position columns) = .ok positions)
    (h : GroupingContext.fields ⟨columns, types, groupBy, positions⟩ item = .ok fields) :
    List.Forall₂ (Lays columns types positions) (laidOut groupBy [item]) fields := by
  cases item with
  | star =>
      cases h
      show List.Forall₂ _ ((groupBy.map fun name => SelectItem.column name name) ++ []) _
      rw [List.append_nil]
      exact forall₂_lays_names (mapM_eq_ok_iff.mp hpositions) (List.Subset.refl positions)
  | column name outputName =>
      obtain ⟨i, hi, h⟩ := bind_eq_ok_iff.mp h
      split at h
      next hgrouped =>
        cases h
        exact .cons (.column hi hgrouped outputName) .nil
      next => contradiction
  | aggregate call outputName =>
      cases h
      rw [aggregateType?_eq call outputName]
      exact .cons (.aggregate call outputName) .nil

/-- What the items of a select list ask for is laid out item by item. -/
theorem lays_of_mapM_fields {lists : List (List OutputField)}
    (hpositions : groupBy.mapM (position columns) = .ok positions)
    (h : items.mapM (GroupingContext.fields ⟨columns, types, groupBy, positions⟩) = .ok lists) :
    List.Forall₂ (Lays columns types positions) (laidOut groupBy items) lists.flatten := by
  replace h := mapM_eq_ok_iff.mp h
  induction h with
  | nil => exact .nil
  | @cons item fields items lists hitem _ ih =>
      have hsplit : laidOut groupBy (item :: items) =
          laidOut groupBy [item] ++ laidOut groupBy items := by
        unfold laidOut
        rw [← List.flatMap_append, List.singleton_append]
      rw [hsplit, List.flatten_cons]
      exact List.rel_append (forall₂_lays_fields hpositions hitem) ih

/-- **A grouping has the columns that its items lay out**, in the order of the items. -/
theorem lays_of_bindGrouping (h : bindGrouping columns groupBy items having types = .ok g) :
    List.Forall₂ (Lays columns types g.positions) (laidOut groupBy items) g.fields := by
  obtain ⟨hpositions, ⟨lists, hlists, hflatten⟩, -, -⟩ := bindGrouping_eq_ok h
  rw [hflatten]
  exact lays_of_mapM_fields hpositions hlists

/-- Columns that items lay out bear the names that the items give them. -/
theorem map_name_of_lays {fields : List OutputField}
    (h : List.Forall₂ (Lays columns types positions) (laidOut groupBy items) fields) :
    fields.map (·.name) = outputNames groupBy items := by
  unfold outputNames
  generalize laidOut groupBy items = selected at h
  induction h with
  | nil => rfl
  | cons hitem _ ih => rw [List.filterMap_cons_some hitem.outputName?_eq, List.map_cons, ih]

/-! ## The rows of the result -/

/-- The calls with the values that they have in a group. -/
def computeCalls (calls : List (Aggregate × Option Nat)) (group : List Row) :
    Except Error (List (Aggregate × Value)) :=
  calls.mapM fun (call, i) => do return (call, ← call.function.fold i group)

namespace BoundGrouping

/-- The aggregates with the values that they have in a group, if all of them have one. -/
def computed (g : BoundGrouping) (group : List Row) : List (Aggregate × Value) :=
  (computeCalls g.calls group).toOption.getD []

/-- All aggregates have a value in the group. -/
def Computes (g : BoundGrouping) (group : List Row) : Prop :=
  computeCalls g.calls group = .ok (g.computed group)

/-- The row that a group becomes. -/
def rowOf (g : BoundGrouping) (group : List Row) : Row :=
  g.fields.map (·.source.read (g.computed group) group)

/-- Whether the conditions hold of a group. -/
def keeps (g : BoundGrouping) (group : List Row) : Bool :=
  g.having.all fun (connective, conditions) => connective.combine (conditions.map fun c =>
    (c.source.read (g.computed group) group).satisfies c.comparison c.comparand)

theorem computes_of_eq_ok {group : List Row} {values : List (Aggregate × Value)}
    (h : computeCalls g.calls group = .ok values) :
    g.computed group = values ∧ g.Computes group := by
  have hcomputed : g.computed group = values := by
    unfold computed
    rw [h]
    rfl
  exact ⟨hcomputed, by unfold Computes; rw [h, hcomputed]⟩

/-- A group becomes its row if the conditions hold of it, and no row otherwise. -/
theorem groupRow_eq_ok_iff {group : List Row} {row? : Option Row} :
    groupRow g.fields g.calls g.having group = .ok row? ↔
      g.Computes group ∧ row? = if g.keeps group then some (g.rowOf group) else none := by
  unfold groupRow
  constructor
  · intro h
    obtain ⟨values, hvalues, h⟩ := bind_eq_ok_iff.mp h
    obtain ⟨rfl, hcomputes⟩ := computes_of_eq_ok hvalues
    cases h
    exact ⟨hcomputes, rfl⟩
  · rintro ⟨hcomputes, rfl⟩
    exact bind_eq_ok_iff.mpr ⟨g.computed group, hcomputes, rfl⟩

end BoundGrouping

/-- A grouping without conditions is bound without any. -/
theorem having_none_of_bindGrouping (h : bindGrouping columns groupBy items none types = .ok g) :
    g.having = none :=
  (Except.ok.inj (bindGrouping_eq_ok h).2.2.1).symm

/-- **A grouping answers the rows of the groups that its conditions hold of**, where it can be bound
and every aggregate has a value in every group. -/
theorem Relation.group_eq_ok_iff {r result : Relation} :
    r.group groupBy items having types = .ok result ↔
      ∃ g, bindGrouping r.columns groupBy items having types = .ok g ∧
        (∀ group ∈ groupsOf g.positions r.rows, g.Computes group) ∧
        result = ⟨outputNames groupBy items,
          ((groupsOf g.positions r.rows).filter g.keeps).map g.rowOf⟩ := by
  -- the rows of the groups that are kept, in two forms
  have hkept : ∀ (g : BoundGrouping) (groups : List (List Row)),
      (groups.map fun group => if g.keeps group then some (g.rowOf group) else none).filterMap id =
        (groups.filter g.keeps).map g.rowOf := by
    intro g groups
    induction groups with
    | nil => rfl
    | cons group groups ih =>
        rw [List.map_cons, List.filterMap_cons, ih]
        by_cases h : g.keeps group = true <;> simp [h]
  have hrows : ∀ (g : BoundGrouping) (groups : List (List Row)) (rows : List (Option Row)),
      groups.mapM (groupRow g.fields g.calls g.having) = .ok rows ↔
        (∀ group ∈ groups, g.Computes group) ∧
        groups.map (fun group => if g.keeps group then some (g.rowOf group) else none) = rows := by
    intro g groups rows
    rw [mapM_eq_ok_iff]
    simp only [BoundGrouping.groupRow_eq_ok_iff, List.forall₂_and_left]
    refine and_congr_right fun _ => ?_
    rw [← List.forall₂_eq_eq_eq, List.forall₂_map_left_iff]
    simp only [eq_comm]
  rw [group_eq_bind]
  simp only [bind_eq_ok_iff, hrows]
  constructor
  · rintro ⟨g, hg, rows, ⟨hcomputes, rfl⟩, h⟩
    cases h
    exact ⟨g, hg, hcomputes, by rw [hkept, map_name_of_lays (lays_of_bindGrouping hg)]⟩
  · rintro ⟨g, hg, hcomputes, rfl⟩
    refine ⟨g, hg, _, ⟨hcomputes, rfl⟩, ?_⟩
    rw [hkept, map_name_of_lays (lays_of_bindGrouping hg)]
    rfl

/-- A grouping without conditions answers the rows of all groups. -/
theorem Relation.group_none_eq_ok_iff {r result : Relation} :
    r.group groupBy items none types = .ok result ↔
      ∃ g, bindGrouping r.columns groupBy items none types = .ok g ∧
        (∀ group ∈ groupsOf g.positions r.rows, g.Computes group) ∧
        result = ⟨outputNames groupBy items, (groupsOf g.positions r.rows).map g.rowOf⟩ := by
  rw [group_eq_ok_iff]
  refine exists_congr fun g => and_congr_right fun hg => and_congr_right fun _ => ?_
  have hkeeps : ∀ group ∈ groupsOf g.positions r.rows, g.keeps group = true := by
    intro group _
    unfold BoundGrouping.keeps
    rw [having_none_of_bindGrouping hg]
    rfl
  rw [List.filter_eq_self.mpr hkeeps]

end RelStore
