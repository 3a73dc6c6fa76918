import RelStore.Proofs.Relation.Cells
import RelStore.Proofs.Relation.Failure
import RelStore.Proofs.Store.Reports

/-!
# What stages report

A stage looks up the names that it is given, casts the literals of its conditions and adds up what
has to be numbers.  So its messages show a name, a literal or a cell, and they break only where one
of the last two is a text with line ends.
-/

namespace RelStore

open Text

variable {texts : String → Prop}

theorem failsOnly_relationPosition (columns : List String) {name : String} (h : SingleLine name) :
    FailsOnly (Error.SingleLineUnless texts) (position columns name) := by
  unfold position
  split
  · exact failsOnly_ok _
  · exact failsOnly_error (Error.singleLineUnless_columnNotFound h)

theorem failsOnly_positions (columns : List String) {names : List String}
    (h : ∀ name ∈ names, IsColumn name) :
    FailsOnly (Error.SingleLineUnless texts) (names.mapM (position columns)) :=
  failsOnly_mapM fun name hname => failsOnly_relationPosition columns (h name hname).singleLine

/-! ## Folding -/

/-- The first value that is no number is shown. -/
theorem failsOnly_numbers {values : List Value} (h : ∀ v ∈ values, v.SingleLineUnless texts) :
    FailsOnly (Error.SingleLineUnless texts) (numbers values) := by
  refine failsOnly_mapM fun v hv => ?_
  split
  · exact failsOnly_ok _
  · exact failsOnly_ok _
  · exact failsOnly_error (Error.singleLineUnless_notNumeric (h v hv))

theorem failsOnly_fold (function : AggregateFunction) (position : Option Nat) {rows : List Row}
    (h : AllCells (Value.SingleLineUnless texts) rows) :
    FailsOnly (Error.SingleLineUnless texts) (function.fold position rows) := by
  have hnumbers : ∀ i, FailsOnly (Error.SingleLineUnless texts) (numbers (nonNullAt i rows)) :=
    fun i => failsOnly_numbers
      (forall_mem_nonNullAt h (Value.singleLineUnless_of_ne_text nofun) i)
  cases position with
  | none =>
      cases function with
      | count => exact failsOnly_ok _
      | sum => exact failsOnly_error (Error.singleLineUnless_internal _)
      | avg => exact failsOnly_error (Error.singleLineUnless_internal _)
      | min => exact failsOnly_error (Error.singleLineUnless_internal _)
      | max => exact failsOnly_error (Error.singleLineUnless_internal _)
  | some i =>
      cases function with
      | count => exact failsOnly_ok _
      | sum => exact failsOnly_map _ (hnumbers i)
      | avg => exact failsOnly_map _ (hnumbers i)
      | min => exact failsOnly_ok _
      | max => exact failsOnly_ok _

/-! ## Groupings -/

namespace GroupingContext

variable (context : GroupingContext)

theorem failsOnly_fields {item : SelectItem} (h : item.WellFormed) :
    FailsOnly (Error.SingleLineUnless texts) (context.fields item) := by
  cases item with
  | star => exact failsOnly_ok _
  | column name outputName =>
      have hname := h.1.singleLine
      refine failsOnly_bind (failsOnly_relationPosition _ hname) fun i _ => ?_
      split
      · exact failsOnly_ok _
      · refine failsOnly_error (Error.singleLineUnless_of_singleLine (.append (by decide) ?_))
        exact (SingleLine.append (by decide) hname).append (by decide)
  | aggregate call outputName => exact failsOnly_ok _

theorem failsOnly_namedSource (fields : List OutputField) {name : String} (h : SingleLine name) :
    FailsOnly (Error.SingleLineUnless texts) (context.namedSource fields name) := by
  unfold namedSource
  split
  · exact failsOnly_ok _
  · split
    · split
      · exact failsOnly_ok _
      · exact failsOnly_error (Error.singleLineUnless_columnNotFound h)
    · exact failsOnly_error (Error.singleLineUnless_columnNotFound h)

theorem failsOnly_bindCondition (fields : List OutputField) {c : Condition}
    (h : c.WellFormed (Value.SingleLineUnless texts)) :
    FailsOnly (Error.SingleLineUnless texts) (context.bindCondition fields c) := by
  have hcast : ∀ (source : CellSource) (type : Option ColumnType),
      FailsOnly (Error.SingleLineUnless texts) (do
        return ⟨source, c.comparison, ← castComparandTo type c.literal⟩ :
          Except Error GroupCondition) := fun source type =>
    failsOnly_bind (failsOnly_castComparandTo type h.literal) fun _ _ => failsOnly_ok _
  have hoperand := h.operand
  unfold bindCondition
  split
  · exact hcast _ _
  next name heq =>
    rw [heq] at hoperand
    exact failsOnly_bind (context.failsOnly_namedSource fields (IsColumn.singleLine hoperand))
      fun found _ => hcast _ _

end GroupingContext

theorem failsOnly_bindGrouping (columns : List String) {groupBy : List String}
    {items : List SelectItem} {having : Option ConditionGroup}
    (hgroupBy : ∀ column ∈ groupBy, IsColumn column) (hitems : ∀ item ∈ items, item.WellFormed)
    (hhaving : ∀ group ∈ having, ∀ c ∈ group.conditions,
      c.WellFormed (Value.SingleLineUnless texts)) (types : ColumnTypes) :
    FailsOnly (Error.SingleLineUnless texts) (bindGrouping columns groupBy items having types) := by
  unfold bindGrouping
  refine failsOnly_bind (failsOnly_positions columns hgroupBy) fun positions _ => ?_
  refine failsOnly_bind (failsOnly_mapM fun item hitem => ?_) fun fields hfields => ?_
  · exact GroupingContext.failsOnly_fields _ (hitems item hitem)
  refine failsOnly_bind (failsOnly_optionMapM fun group hgroup => ?_) fun bound hbound => ?_
  · refine failsOnly_bind (failsOnly_mapM fun c hc => ?_) fun _ _ => failsOnly_ok _
    exact GroupingContext.failsOnly_bindCondition _ _ (hhaving group hgroup c hc)
  refine failsOnly_bind (failsOnly_mapM fun call hcall => ?_) fun _ _ => failsOnly_ok _
  refine failsOnly_bind (failsOnly_optionMapM fun name hname => ?_) fun _ _ => failsOnly_ok _
  have hcalls := calls_of_mem_neededAggregates (among_of_mapM hfields hbound) hcall
  exact failsOnly_relationPosition columns
    ((hcalls.wellFormed hitems hhaving).isColumn name hname).singleLine

/-! ## Stages -/

theorem singleLine_stripQualifier {name : String} (h : SingleLine name) (qualifier : String) :
    SingleLine (stripQualifier qualifier name) := by
  unfold stripQualifier
  split
  next column hcolumn =>
    refine h.of_subset ?_
    rw [String.toList_ofList, ← (List.isPrefixOf?_eq_some_iff_append_eq.mp hcolumn)]
    exact List.subset_append_right _ column
  next => exact h

namespace Relation

variable (r : Relation)

theorem failsOnly_join (t : Table) (kind : JoinKind) {left right : String} (hleft : IsColumn left)
    (hright : IsColumn right) (qualifier : String) :
    FailsOnly (Error.SingleLineUnless texts) (r.join t kind left right qualifier) := by
  refine failsOnly_bind (failsOnly_relationPosition _ hleft.singleLine) fun _ _ => ?_
  refine failsOnly_bind (failsOnly_relationPosition _ ?_) fun _ _ => failsOnly_ok _
  exact singleLine_stripQualifier hright.singleLine qualifier

theorem failsOnly_filter {group : ConditionGroup}
    (h : ∀ c ∈ group.conditions, c.WellFormed (Value.SingleLineUnless texts))
    (types : ColumnTypes) : FailsOnly (Error.SingleLineUnless texts) (r.filter group types) := by
  refine failsOnly_bind (failsOnly_mapM fun c hc => ?_) fun _ _ => failsOnly_ok _
  have hoperand := (h c hc).operand
  unfold bindCondition
  split
  · exact failsOnly_error (Error.singleLineUnless_internal _)
  next name heq =>
    rw [heq] at hoperand
    refine failsOnly_bind
      (failsOnly_relationPosition _ (IsColumn.singleLine hoperand)) fun i _ => ?_
    exact failsOnly_bind (failsOnly_castComparandTo _ (h c hc).literal) fun _ _ => failsOnly_ok _

theorem failsOnly_distinct {columns : Option (List String)}
    (h : ∀ names ∈ columns, ∀ column ∈ names, IsColumn column) :
    FailsOnly (Error.SingleLineUnless texts) (r.distinct columns) := by
  cases columns with
  | none => exact failsOnly_ok _
  | some names =>
      exact failsOnly_bind (failsOnly_positions _ (h names rfl)) fun _ _ => failsOnly_ok _

theorem failsOnly_sort {key : SortKey} (h : IsColumn key.column) :
    FailsOnly (Error.SingleLineUnless texts) (r.sort key) :=
  failsOnly_bind (failsOnly_relationPosition _ h.singleLine) fun _ _ => failsOnly_ok _

theorem failsOnly_project {items : List SelectItem} (h : ∀ item ∈ items, item.WellFormed) :
    FailsOnly (Error.SingleLineUnless texts) (r.project items) := by
  refine failsOnly_bind (failsOnly_mapM fun item hitem => ?_) fun _ _ => failsOnly_ok _
  have hwf := h item hitem
  cases item with
  | star => exact failsOnly_ok _
  | column name outputName =>
      exact failsOnly_bind (failsOnly_relationPosition _ hwf.1.singleLine) fun _ _ =>
        failsOnly_ok _
  | aggregate call outputName => exact failsOnly_error (Error.singleLineUnless_internal _)

/-- **A grouping shows a name, a literal of its conditions or a cell that it cannot add up.** -/
theorem failsOnly_group (hr : AllCells (Value.SingleLineUnless texts) r.rows)
    {groupBy : List String} {items : List SelectItem} {having : Option ConditionGroup}
    (hgroupBy : ∀ column ∈ groupBy, IsColumn column) (hitems : ∀ item ∈ items, item.WellFormed)
    (hhaving : ∀ group ∈ having, ∀ c ∈ group.conditions,
      c.WellFormed (Value.SingleLineUnless texts)) (types : ColumnTypes) :
    FailsOnly (Error.SingleLineUnless texts) (r.group groupBy items having types) := by
  rw [group_eq_bind]
  refine failsOnly_bind (failsOnly_bindGrouping _ hgroupBy hitems hhaving types) fun g _ => ?_
  refine failsOnly_bind (failsOnly_mapM fun group hgroup => ?_) fun _ _ => failsOnly_ok _
  refine failsOnly_bind (failsOnly_mapM fun call _ => ?_) fun _ _ => failsOnly_ok _
  refine failsOnly_bind (failsOnly_fold _ _ ?_) fun _ _ => failsOnly_ok _
  exact hr.of_subset (subset_of_mem_groupsOf hgroup)

end Relation

end RelStore
