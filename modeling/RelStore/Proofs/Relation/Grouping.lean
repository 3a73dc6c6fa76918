import RelStore.Proofs.Occurrence
import RelStore.Proofs.Result
import RelStore.Relation.Group

/-!
# Groupings bound to their columns

A grouping first looks its names up and then goes through the rows.  `bindGrouping` is the first
half: what it answers depends on the names of the columns alone, and everything in it that points
to a column points to one of them (`within_of_bindGrouping`).  Errors about names and literals are
those of this half; the other half fails only where an aggregate does.
-/

namespace RelStore

theorem position_eq_ok_iff {columns : List String} {name : String} {i : Nat} :
    position columns name = .ok i ↔ position? columns name = some i := by
  unfold position
  cases position? columns name <;> simp

/-- A position found is one of the columns. -/
theorem lt_length_of_position_eq_ok {columns : List String} {name : String} {i : Nat}
    (h : position columns name = .ok i) : i < columns.length :=
  lt_length_of_position?_eq_some (position_eq_ok_iff.mp h)

/-- A grouping whose names have been looked up. -/
structure BoundGrouping where
  /-- The positions of the columns grouped by. -/
  positions : List Nat
  /-- The columns of the result. -/
  fields : List OutputField
  /-- The conditions on groups. -/
  having : Option (Connective × List GroupCondition)
  /-- The aggregates to compute, each with the position of its column. -/
  calls : List (Aggregate × Option Nat)

/-- Looks up the names of a grouping among the columns of its source. -/
def bindGrouping (columns groupBy : List String) (items : List SelectItem)
    (having : Option ConditionGroup) (types : ColumnTypes) : Except Error BoundGrouping := do
  let positions ← groupBy.mapM (position columns)
  let context : GroupingContext := { columns, types, groupBy, positions }
  let fields := (← items.mapM context.fields).flatten
  let having ← having.mapM fun group => do
    return (group.connective, ← group.conditions.mapM (context.bindCondition fields))
  let conditions := (having.map (·.2)).getD []
  let needed := neededAggregates (fields.map (·.source) ++ conditions.map (·.source))
  let calls ← needed.mapM fun call => do
    return (call, ← call.column.mapM (position columns))
  return { positions, fields, having, calls }

/-- **A relation is grouped by binding the grouping and going through the groups.** -/
theorem Relation.group_eq_bind (r : Relation) (groupBy : List String) (items : List SelectItem)
    (having : Option ConditionGroup) (types : ColumnTypes) :
    r.group groupBy items having types = (do
      let g ← bindGrouping r.columns groupBy items having types
      let rows ← (groupsOf g.positions r.rows).mapM (groupRow g.fields g.calls g.having)
      return ⟨g.fields.map (·.name), rows.filterMap id⟩) := by
  unfold Relation.group bindGrouping
  simp only [bind_assoc, pure_bind]

/-! ## Binding -/

variable {columns groupBy : List String} {items : List SelectItem}
  {having : Option ConditionGroup} {types : ColumnTypes} {g : BoundGrouping}

/-- What is looked up, in order. -/
theorem bindGrouping_eq_ok (h : bindGrouping columns groupBy items having types = .ok g) :
    groupBy.mapM (position columns) = .ok g.positions ∧
      (∃ fields, items.mapM (GroupingContext.fields ⟨columns, types, groupBy, g.positions⟩) =
        .ok fields ∧ g.fields = fields.flatten) ∧
      (having.mapM fun group => do
        return (group.connective, ← group.conditions.mapM
          (GroupingContext.bindCondition ⟨columns, types, groupBy, g.positions⟩ g.fields))) =
        .ok g.having ∧
      ((neededAggregates (g.fields.map (·.source) ++
        ((g.having.map (·.2)).getD []).map (·.source))).mapM fun call => do
          return (call, ← call.column.mapM (position columns))) = .ok g.calls := by
  unfold bindGrouping at h
  obtain ⟨positions, hpositions, h⟩ := bind_eq_ok_iff.mp h
  obtain ⟨fields, hfields, h⟩ := bind_eq_ok_iff.mp h
  obtain ⟨bound, hbound, h⟩ := bind_eq_ok_iff.mp h
  obtain ⟨calls, hcalls, h⟩ := bind_eq_ok_iff.mp h
  cases h
  exact ⟨hpositions, ⟨fields, hfields, rfl⟩, hbound, hcalls⟩

/-- Columns that are grouped by have positions. -/
theorem positions_ne_nil_of_bindGrouping (hne : groupBy ≠ [])
    (h : bindGrouping columns groupBy items having types = .ok g) : g.positions ≠ [] := by
  intro hnil
  have hmapM := (bindGrouping_eq_ok h).1
  rw [hnil] at hmapM
  exact hne (List.forall₂_nil_right_iff.mp (mapM_eq_ok_iff.mp hmapM))

/-- A grouped result has the columns of the grouping, and a row of it is what their sources read of
a group. -/
theorem Relation.group_eq_ok {r result : Relation}
    (h : r.group groupBy items having types = .ok result) :
    ∃ g, bindGrouping r.columns groupBy items having types = .ok g ∧
      result.columns = g.fields.map (·.name) ∧
      ∀ row ∈ result.rows, ∃ read : CellSource → Value,
        row = g.fields.map fun f => read f.source := by
  rw [group_eq_bind] at h
  obtain ⟨g, hg, h⟩ := bind_eq_ok_iff.mp h
  obtain ⟨rows, hrows, h⟩ := bind_eq_ok_iff.mp h
  cases h
  refine ⟨g, hg, rfl, fun row hrow => ?_⟩
  obtain ⟨kept, hkept, heq⟩ := List.mem_filterMap.mp hrow
  obtain ⟨group, -, hgroup⟩ := exists_mem_of_forall₂ (mapM_eq_ok_iff.mp hrows) hkept
  obtain ⟨computed, -, hgroup⟩ := bind_eq_ok_iff.mp hgroup
  cases hgroup
  split at heq
  · cases heq
    exact ⟨CellSource.read computed group, rfl⟩
  · contradiction

/-! ## Where the values of groups come from -/

/-- The call that an item of the select list is, if it is one. -/
def SelectItem.call? : SelectItem → Option Aggregate
  | aggregate call _ => some call
  | _ => none

/-- The call that the left side of a condition is, if it is one. -/
def Operand.call? : Operand → Option Aggregate
  | aggregate call => some call
  | column _ => none

/-- The call stands in the select list or in a condition. -/
def Calls (items : List SelectItem) (having : Option ConditionGroup) (call : Aggregate) : Prop :=
  (∃ item ∈ items, item.call? = some call) ∨
    ∃ group ∈ having, ∃ c ∈ group.conditions, c.operand.call? = some call

/-- The value is that of one of the calls, or stands at one of the positions. -/
def CellSource.Among (calls : Aggregate → Prop) (positions : List Nat) : CellSource → Prop
  | aggregate call => calls call
  | position i => i ∈ positions

namespace GroupingContext

variable {context : GroupingContext} {calls : Aggregate → Prop}

/-- A plain column of the result is one of those grouped by. -/
theorem among_of_fields {item : SelectItem} {fields : List OutputField}
    (h : context.fields item = .ok fields) (hcall : ∀ call, item.call? = some call → calls call)
    {field : OutputField} (hfield : field ∈ fields) :
    field.source.Among calls context.positions := by
  cases item with
  | star =>
      cases h
      obtain ⟨⟨name, i⟩, hpair, rfl⟩ := List.mem_map.mp hfield
      exact (List.of_mem_zip hpair).2
  | column name outputName =>
      obtain ⟨i, -, h⟩ := bind_eq_ok_iff.mp h
      split at h
      next hi =>
        cases h
        rw [List.mem_singleton.mp hfield]
        exact hi
      next => contradiction
  | aggregate call outputName =>
      cases h
      rw [List.mem_singleton.mp hfield]
      exact hcall call rfl

/-- A name in a condition reads a column of the result or one of those grouped by. -/
theorem among_of_namedSource {fields : List OutputField} {name : String} {source : CellSource}
    {type : Option ColumnType} (h : context.namedSource fields name = .ok (source, type))
    (hfields : ∀ field ∈ fields, field.source.Among calls context.positions) :
    source.Among calls context.positions := by
  unfold namedSource at h
  split at h
  next field hfield =>
    cases h
    obtain ⟨i, -, hi⟩ := Option.bind_eq_some_iff.mp hfield
    exact hfields field (List.mem_of_getElem? hi)
  next =>
    split at h
    next i _ =>
      split at h
      next hi =>
        cases h
        exact hi
      next => contradiction
    next => contradiction

/-- A condition reads its call, a column of the result or one of those grouped by. -/
theorem among_of_bindCondition {fields : List OutputField} {c : Condition} {bound : GroupCondition}
    (h : context.bindCondition fields c = .ok bound)
    (hcall : ∀ call, c.operand.call? = some call → calls call)
    (hfields : ∀ field ∈ fields, field.source.Among calls context.positions) :
    bound.source.Among calls context.positions := by
  unfold bindCondition at h
  split at h
  next call hoperand =>
    obtain ⟨_, hsource, h⟩ := bind_eq_ok_iff.mp h
    obtain ⟨comparand, -, h⟩ := bind_eq_ok_iff.mp h
    cases hsource
    cases h
    exact hcall call (by rw [hoperand]; rfl)
  next name _ =>
    obtain ⟨⟨source, type⟩, hsource, h⟩ := bind_eq_ok_iff.mp h
    obtain ⟨comparand, -, h⟩ := bind_eq_ok_iff.mp h
    cases h
    exact among_of_namedSource hsource hfields

end GroupingContext

/-- Conditions on groups read the calls that were written and the columns grouped by, and so do the
columns of the result. -/
theorem among_of_mapM {context : GroupingContext} {fields : List (List OutputField)}
    {bound : Option (Connective × List GroupCondition)}
    (hfields : items.mapM context.fields = .ok fields)
    (hhaving : (having.mapM fun group => do
      return (group.connective, ← group.conditions.mapM (context.bindCondition fields.flatten))) =
      .ok bound) :
    (∀ field ∈ fields.flatten, field.source.Among (Calls items having) context.positions) ∧
      ∀ conditions ∈ bound, ∀ c ∈ conditions.2,
        c.source.Among (Calls items having) context.positions := by
  have hfield : ∀ field ∈ fields.flatten,
      field.source.Among (Calls items having) context.positions := by
    intro field hmem
    obtain ⟨list, hlist, hmem⟩ := List.mem_flatten.mp hmem
    obtain ⟨item, hitem, hlist⟩ := exists_mem_of_forall₂ (mapM_eq_ok_iff.mp hfields) hlist
    exact GroupingContext.among_of_fields hlist (fun call hcall => .inl ⟨item, hitem, hcall⟩) hmem
  refine ⟨hfield, fun conditions hmem c hc => ?_⟩
  obtain ⟨group, hgroup, hbound⟩ := exists_mem_of_optionMapM hhaving hmem
  obtain ⟨bound, hconditions, hbound⟩ := bind_eq_ok_iff.mp hbound
  cases hbound
  obtain ⟨condition, hcondition, hbound⟩ := exists_mem_of_forall₂ (mapM_eq_ok_iff.mp hconditions) hc
  refine GroupingContext.among_of_bindCondition hbound (fun call hcall => ?_) hfield
  exact .inr ⟨group, hgroup, condition, hcondition, hcall⟩

/-- **Values of groups come from the calls that were written and the columns grouped by.** -/
theorem among_of_bindGrouping (h : bindGrouping columns groupBy items having types = .ok g) :
    (∀ field ∈ g.fields, field.source.Among (Calls items having) g.positions) ∧
      ∀ bound ∈ g.having, ∀ c ∈ bound.2, c.source.Among (Calls items having) g.positions := by
  obtain ⟨-, ⟨fields, hfields, hflatten⟩, hhaving, -⟩ := bindGrouping_eq_ok h
  rw [hflatten] at hhaving ⊢
  exact among_of_mapM hfields hhaving

/-- The aggregate that a value is that of. -/
def CellSource.call? : CellSource → Option Aggregate
  | aggregate call => some call
  | position _ => none

theorem CellSource.call?_eq_some_iff {source : CellSource} {call : Aggregate} :
    source.call? = some call ↔ source = .aggregate call := by
  cases source <;> simp [call?]

theorem neededAggregates_eq (sources : List CellSource) :
    neededAggregates sources = firstBy id (sources.filterMap CellSource.call?) := by
  unfold neededAggregates
  refine congrArg (firstBy id) (List.filterMap_congr fun source _ => ?_)
  cases source <;> rfl

/-- The aggregates needed are those that values come from. -/
theorem mem_neededAggregates_iff {sources : List CellSource} {call : Aggregate} :
    call ∈ neededAggregates sources ↔ .aggregate call ∈ sources := by
  rw [neededAggregates_eq, firstBy_id, List.mem_eraseDups, List.mem_filterMap]
  simp only [CellSource.call?_eq_some_iff, exists_eq_right]

/-- The aggregates that the columns of the result and the conditions need were written. -/
theorem calls_of_mem_neededAggregates {fields : List OutputField}
    {bound : Option (Connective × List GroupCondition)} {positions : List Nat}
    (hamong : (∀ field ∈ fields, field.source.Among (Calls items having) positions) ∧
      ∀ conditions ∈ bound, ∀ c ∈ conditions.2, c.source.Among (Calls items having) positions)
    {call : Aggregate} (h : call ∈ neededAggregates
      (fields.map (·.source) ++ ((bound.map (·.2)).getD []).map (·.source))) :
    Calls items having call := by
  rcases List.mem_append.mp (mem_neededAggregates_iff.mp h) with hmem | hmem
  · obtain ⟨field, hfield, hsource⟩ := List.mem_map.mp hmem
    have hfieldAmong := hamong.1 field hfield
    rwa [hsource] at hfieldAmong
  · obtain ⟨c, hc, hsource⟩ := List.mem_map.mp hmem
    cases bound with
    | none => contradiction
    | some conditions =>
        have hconditionAmong := hamong.2 conditions rfl c hc
        rwa [hsource] at hconditionAmong

/-- **The aggregates to compute were written**, and have a position just if they have a column. -/
theorem call_of_bindGrouping (h : bindGrouping columns groupBy items having types = .ok g)
    {call : Aggregate × Option Nat} (hmem : call ∈ g.calls) :
    Calls items having call.1 ∧ call.1.column.mapM (position columns) = .ok call.2 := by
  obtain ⟨-, -, -, hcalls⟩ := bindGrouping_eq_ok h
  obtain ⟨needed, hneeded, hcall⟩ := exists_mem_of_forall₂ (mapM_eq_ok_iff.mp hcalls) hmem
  obtain ⟨i?, hi?, hcall⟩ := bind_eq_ok_iff.mp hcall
  cases hcall
  exact ⟨calls_of_mem_neededAggregates (among_of_bindGrouping h) hneeded, hi?⟩

/-! ## Positions of bound groupings -/

/-- The values of a group come from columns that there are. -/
def CellSource.Within (width : Nat) : CellSource → Prop
  | aggregate _ => True
  | position i => i < width

theorem CellSource.Among.within {source : CellSource} {calls : Aggregate → Prop}
    {positions : List Nat} (h : source.Among calls positions) {width : Nat}
    (hwithin : ∀ i ∈ positions, i < width) : source.Within width := by
  cases source with
  | aggregate call => trivial
  | position i => exact hwithin i h

/-- Every position in the grouping is that of one of the columns. -/
structure BoundGrouping.Within (width : Nat) (g : BoundGrouping) : Prop where
  position : ∀ i ∈ g.positions, i < width
  field : ∀ field ∈ g.fields, field.source.Within width
  condition : ∀ having ∈ g.having, ∀ c ∈ having.2, c.source.Within width
  call : ∀ call ∈ g.calls, ∀ i ∈ call.2, i < width

theorem lt_length_of_mapM_position {names : List String} {positions : List Nat}
    (h : names.mapM (position columns) = .ok positions) {i : Nat} (hi : i ∈ positions) :
    i < columns.length := by
  obtain ⟨name, -, hname⟩ := exists_mem_of_forall₂ (mapM_eq_ok_iff.mp h) hi
  exact lt_length_of_position_eq_ok hname

/-- **A grouping that is bound points to columns that there are.** -/
theorem within_of_bindGrouping (h : bindGrouping columns groupBy items having types = .ok g) :
    g.Within columns.length := by
  have hposition : ∀ i ∈ g.positions, i < columns.length :=
    fun i hi => lt_length_of_mapM_position (bindGrouping_eq_ok h).1 hi
  obtain ⟨hfields, hconditions⟩ := among_of_bindGrouping h
  refine ⟨hposition, fun field hfield => (hfields field hfield).within hposition,
    fun bound hbound c hc => (hconditions bound hbound c hc).within hposition, ?_⟩
  intro call hmem i hi
  obtain ⟨name, -, hname⟩ := exists_mem_of_optionMapM (call_of_bindGrouping h hmem).2 hi
  exact lt_length_of_position_eq_ok hname

end RelStore
