import RelStore.Proofs.Grammar.WellFormed
import RelStore.Proofs.Relation.Grouping
import RelStore.Proofs.Store.Failure
import RelStore.Relation.Filter
import RelStore.Relation.Join
import RelStore.Relation.Project
import RelStore.Relation.Sort

/-!
# How stages fail

Three stages can fail internally, each at something that a condition or a select list asks for: a
filter at an aggregate, a projection at an aggregate, a grouping at a function other than counting
that has no column.  Where nothing of the kind is asked for they do not, nor do the others.
-/

namespace RelStore

theorem neverInternal_relationPosition (columns : List String) (name : String) :
    NeverInternal (position columns name) := by
  unfold position
  split
  · exact neverInternal_ok _
  · exact neverInternal_error nofun

/-- A call that has a value: only counting does without a column. -/
def Aggregate.Computable (call : Aggregate) : Prop :=
  call.column = none → call.function = .count

/-- The calls of well-formed items and conditions are well-formed. -/
theorem Calls.wellFormed {items : List SelectItem} {having : Option ConditionGroup}
    {call : Aggregate} (h : Calls items having call) {literal : Value → Prop}
    (hitems : ∀ item ∈ items, item.WellFormed)
    (hhaving : ∀ group ∈ having, ∀ c ∈ group.conditions, c.WellFormed literal) :
    call.WellFormed := by
  rcases h with ⟨item, hitem, hcall⟩ | ⟨group, hgroup, c, hc, hcall⟩
  · have hwf := hitems item hitem
    cases item with
    | star => contradiction
    | column name outputName => contradiction
    | aggregate other outputName =>
        cases hcall
        exact hwf.1
  · have hwf := (hhaving group hgroup c hc).operand
    cases hoperand : c.operand with
    | column name =>
        rw [hoperand] at hcall
        contradiction
    | aggregate other =>
        rw [hoperand] at hcall hwf
        cases hcall
        exact hwf

theorem neverInternal_numbers (values : List Value) : NeverInternal (numbers values) := by
  refine neverInternal_mapM fun v _ => ?_
  split
  · exact neverInternal_ok _
  · exact neverInternal_ok _
  · exact neverInternal_error nofun

theorem neverInternal_fold {function : AggregateFunction} {position : Option Nat}
    (h : position = none → function = .count) (rows : List Row) :
    NeverInternal (function.fold position rows) := by
  cases position with
  | none =>
      rw [h rfl]
      exact neverInternal_ok _
  | some i =>
      cases function with
      | sum => exact neverInternal_map _ (neverInternal_numbers _)
      | avg => exact neverInternal_map _ (neverInternal_numbers _)
      | count => exact neverInternal_ok _
      | min => exact neverInternal_ok _
      | max => exact neverInternal_ok _

namespace GroupingContext

variable (context : GroupingContext)

theorem neverInternal_fields (item : SelectItem) : NeverInternal (context.fields item) := by
  cases item with
  | star => exact neverInternal_ok _
  | column name outputName =>
      refine neverInternal_bind (neverInternal_relationPosition _ _) fun i _ => ?_
      split
      · exact neverInternal_ok _
      · exact neverInternal_error nofun
  | aggregate call outputName => exact neverInternal_ok _

theorem neverInternal_bindCondition (fields : List OutputField) (c : Condition) :
    NeverInternal (context.bindCondition fields c) := by
  have hcast : ∀ (source : CellSource) (type : Option ColumnType), NeverInternal (do
      return ⟨source, c.comparison, ← castComparandTo type c.literal⟩ :
        Except Error GroupCondition) := fun source type =>
    neverInternal_bind (neverInternal_castComparandTo _ _) fun _ _ => neverInternal_ok _
  have hnamed : ∀ name, NeverInternal (context.namedSource fields name) := by
    intro name
    unfold namedSource
    split
    · exact neverInternal_ok _
    · split
      · split
        · exact neverInternal_ok _
        · exact neverInternal_error nofun
      · exact neverInternal_error nofun
  unfold bindCondition
  split
  · exact hcast _ _
  · exact neverInternal_bind (hnamed _) fun found _ => hcast _ _

end GroupingContext

theorem neverInternal_bindGrouping (columns groupBy : List String) (items : List SelectItem)
    (having : Option ConditionGroup) (types : ColumnTypes) :
    NeverInternal (bindGrouping columns groupBy items having types) := by
  unfold bindGrouping
  refine neverInternal_bind (neverInternal_mapM fun name _ => ?_) fun positions _ => ?_
  · exact neverInternal_relationPosition columns name
  refine neverInternal_bind (neverInternal_mapM fun item _ => ?_) fun fields _ => ?_
  · exact GroupingContext.neverInternal_fields _ item
  refine neverInternal_bind (neverInternal_optionMapM fun group _ => ?_) fun bound _ => ?_
  · refine neverInternal_bind (neverInternal_mapM fun c _ => ?_) fun _ _ => neverInternal_ok _
    exact GroupingContext.neverInternal_bindCondition _ _ c
  refine neverInternal_bind (neverInternal_mapM fun call _ => ?_) fun _ _ => neverInternal_ok _
  refine neverInternal_bind (neverInternal_optionMapM fun name _ => ?_) fun _ _ =>
    neverInternal_ok _
  exact neverInternal_relationPosition columns name

namespace Relation

variable (r : Relation)

/-- A filter on columns fails in no internal way. -/
theorem neverInternal_filter {group : ConditionGroup}
    (h : ∀ c ∈ group.conditions, c.operand.call? = none) (types : ColumnTypes) :
    NeverInternal (r.filter group types) := by
  refine neverInternal_bind (neverInternal_mapM fun c hc => ?_) fun _ _ => neverInternal_ok _
  have hcolumn := h c hc
  unfold bindCondition
  split
  next hoperand =>
    rw [hoperand] at hcolumn
    contradiction
  next =>
    refine neverInternal_bind (neverInternal_relationPosition _ _) fun i _ => ?_
    exact neverInternal_bind (neverInternal_castComparandTo _ _) fun _ _ => neverInternal_ok _

theorem neverInternal_join (t : Table) (kind : JoinKind) (left right qualifier : String) :
    NeverInternal (r.join t kind left right qualifier) :=
  neverInternal_bind (neverInternal_relationPosition _ _) fun _ _ =>
    neverInternal_bind (neverInternal_relationPosition _ _) fun _ _ => neverInternal_ok _

theorem neverInternal_distinct (columns : Option (List String)) :
    NeverInternal (r.distinct columns) := by
  unfold distinct
  split
  · refine neverInternal_bind (neverInternal_mapM fun name _ => ?_) fun _ _ => neverInternal_ok _
    exact neverInternal_relationPosition _ name
  · exact neverInternal_ok _

theorem neverInternal_sort (key : SortKey) : NeverInternal (r.sort key) :=
  neverInternal_bind (neverInternal_relationPosition _ _) fun _ _ => neverInternal_ok _

/-- A projection without aggregates fails in no internal way. -/
theorem neverInternal_project {items : List SelectItem}
    (h : ∀ item ∈ items, item.call? = none) : NeverInternal (r.project items) := by
  refine neverInternal_bind (neverInternal_mapM fun item hitem => ?_) fun _ _ => neverInternal_ok _
  cases item with
  | star => exact neverInternal_ok _
  | column name outputName =>
      exact neverInternal_bind (neverInternal_relationPosition _ _) fun _ _ => neverInternal_ok _
  | aggregate call outputName => exact absurd (h _ hitem) nofun

/-- **A grouping whose calls all have a value fails in no internal way.** -/
theorem neverInternal_group (groupBy : List String) {items : List SelectItem}
    {having : Option ConditionGroup} (h : ∀ call, Calls items having call → call.Computable)
    (types : ColumnTypes) : NeverInternal (r.group groupBy items having types) := by
  rw [group_eq_bind]
  refine neverInternal_bind (neverInternal_bindGrouping _ _ _ _ _) fun g hg => ?_
  refine neverInternal_bind (neverInternal_mapM fun group _ => ?_) fun _ _ => neverInternal_ok _
  refine neverInternal_bind (neverInternal_mapM fun call hcall => ?_) fun _ _ => neverInternal_ok _
  obtain ⟨hcalls, hposition⟩ := call_of_bindGrouping hg hcall
  refine neverInternal_bind (neverInternal_fold (fun hnone => ?_) _) fun _ _ => neverInternal_ok _
  -- a call without a position is one without a column
  refine h _ hcalls ?_
  cases hcolumn : call.1.column with
  | none => rfl
  | some name =>
      rw [hcolumn, hnone] at hposition
      obtain ⟨i, -, hi⟩ := map_eq_ok_iff.mp hposition
      contradiction

end Relation

end RelStore
