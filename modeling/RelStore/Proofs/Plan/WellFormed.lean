import RelStore.Proofs.Plan.Proper
import RelStore.Proofs.Store.Reports

/-!
# Well-formed plans

What a plan carries it has from its statement or from the catalog, so it is named by names and has
the literals of the statement: the plan of a well-formed statement is well-formed.  A column to sort
by is no exception, though it may be carried over to the other side of a select list, since only
columns are carried over and a column's name in the result is again one of a column.

A statement that cannot be planned is refused with a name of it at most.
-/

namespace RelStore

open Text

namespace Plan

/-- Tables and columns are named as such, and the literals are allowed. -/
def WellFormed (literal : Value → Prop) : Plan → Prop
  | createTable schema =>
    IsName schema.name ∧ (∀ column ∈ schema.columns, IsName column.name) ∧
      ∀ key ∈ schema.primaryKey, IsName key
  | insert table columns values =>
    IsName table ∧ (∀ column ∈ columns, IsName column) ∧ ∀ v ∈ values, literal v
  | update table assignments test =>
    IsName table ∧ (∀ entry ∈ assignments.entries, IsName entry.1 ∧ literal entry.2) ∧
      ∀ condition ∈ test, EqualityTest.WellFormed literal condition
  | delete table test => IsName table ∧ test.WellFormed literal
  | scan table => IsName table
  | join source table _ left right _ =>
    source.WellFormed literal ∧ IsName table ∧ IsColumn left ∧ IsColumn right
  | filter source conditions _ =>
    source.WellFormed literal ∧ ∀ c ∈ conditions.conditions, c.WellFormed literal
  | group source groupBy items having _ =>
    source.WellFormed literal ∧ (∀ column ∈ groupBy, IsColumn column) ∧
      (∀ item ∈ items, item.WellFormed) ∧
      ∀ conditions ∈ having, ∀ c ∈ conditions.conditions, c.WellFormed literal
  | distinct source columns =>
    source.WellFormed literal ∧ ∀ names ∈ columns, ∀ column ∈ names, IsColumn column
  | sort source key => source.WellFormed literal ∧ IsColumn key.column
  | skip source _ => source.WellFormed literal
  | take source _ => source.WellFormed literal
  | project source items => source.WellFormed literal ∧ ∀ item ∈ items, item.WellFormed

variable {literal : Value → Prop} {c : Catalog}

/-! ## Sources -/

theorem wellFormed_sourceStages (hc : c.Spellable) {source : TableReference} {joins : List Join}
    (hjoins : ∀ join ∈ joins, IsColumn join.left ∧ IsColumn join.right) {stage : Plan × ColumnTypes}
    (h : sourceStages c source joins = .ok stage) : stage.1.WellFormed literal := by
  obtain ⟨t, ht, h⟩ := bind_eq_ok_iff.mp h
  have hscan : (scan t.schema.name).WellFormed literal := (hc.of_find ht).isName
  refine foldlM_invariant_mem (fun stage => stage.1.WellFormed literal) ?_ hscan h
  intro stage join hjoin stage' hstage h
  obtain ⟨joined, hjoined, h⟩ := bind_eq_ok_iff.mp h
  cases h
  exact ⟨hstage, (hc.of_find hjoined).isName, hjoins join hjoin⟩

theorem wellFormed_filterStage {source p : Plan} (hsource : source.WellFormed literal)
    {filter : Option ConditionGroup}
    (hfilter : ∀ group ∈ filter, ∀ c ∈ group.conditions, c.WellFormed literal) {types : ColumnTypes}
    (h : filterStage source filter types = .ok p) : p.WellFormed literal := by
  unfold filterStage at h
  split at h
  next =>
    cases h
    exact hsource
  next group =>
    split at h
    next =>
      cases h
      exact ⟨hsource, hfilter group rfl⟩
    next => contradiction

/-! ## Results -/

theorem wellFormed_finalStages {source : Plan} (hsource : source.WellFormed literal) (q : Query)
    {distinctOn : Option (List String)}
    (hdistinct : ∀ names ∈ distinctOn, ∀ column ∈ names, IsColumn column)
    {orderBy : Option SortKey} (horderBy : ∀ key ∈ orderBy, IsColumn key.column) :
    (finalStages source q distinctOn orderBy).WellFormed literal := by
  have hfirst : (if q.distinct then distinct source distinctOn else source).WellFormed literal := by
    split
    · exact ⟨hsource, hdistinct⟩
    · exact hsource
  have hsorted : ∀ first : Plan, first.WellFormed literal →
      (orderBy.elim first (sort first)).WellFormed literal := by
    intro first hfirst
    cases orderBy with
    | none => exact hfirst
    | some key => exact ⟨hfirst, horderBy key rfl⟩
  unfold finalStages
  cases q.offset <;> cases q.limit <;> exact hsorted _ hfirst

/-- A sort key that is carried over is one of a column. -/
theorem isColumn_renameKey {rename : String → Option String} {key : SortKey}
    (hkey : IsColumn key.column)
    (hrename : ∀ name column, rename name = some column → IsColumn column) :
    IsColumn (renameKey rename key).column := by
  simp only [renameKey]
  cases h : rename key.column with
  | none => exact hkey
  | some column => exact hrename _ _ h

theorem isColumn_sourceOfOutput? {items : List SelectItem}
    (hitems : ∀ item ∈ items, item.WellFormed) {name column : String}
    (h : sourceOfOutput? items name = some column) : IsColumn column := by
  obtain ⟨item, hitem, h⟩ := List.exists_of_findSome?_eq_some h
  have hwf := hitems item hitem
  cases item with
  | star => cases h
  | aggregate call outputName => cases h
  | column source outputName =>
      dsimp only at h
      split at h <;> cases h
      exact hwf.1

theorem isColumn_outputOfSource? {items : List SelectItem}
    (hitems : ∀ item ∈ items, item.WellFormed) {name column : String}
    (h : outputOfSource? items name = some column) : IsColumn column := by
  unfold outputOfSource? at h
  split at h
  · contradiction
  · obtain ⟨item, hitem, h⟩ := List.exists_of_findSome?_eq_some h
    have hwf := hitems item hitem
    cases item with
    | star => cases h
    | aggregate call outputName => cases h
    | column source outputName =>
        dsimp only at h
        split at h <;> cases h
        rcases hwf.2 with rfl | hname
        · exact hwf.1
        · exact .plain hname

theorem isColumn_sourceName? {items : List SelectItem} (hitems : ∀ item ∈ items, item.WellFormed)
    {names : List String} (h : items.mapM (·.sourceName?) = some names) :
    ∀ column ∈ names, IsColumn column := by
  induction items generalizing names with
  | nil =>
      cases h
      simp
  | cons item items ih =>
      obtain ⟨hitem, hrest⟩ := List.forall_mem_cons.mp hitems
      rw [List.mapM_cons] at h
      obtain ⟨column, hcolumn, h⟩ := Option.bind_eq_some_iff.mp h
      obtain ⟨columns, hcolumns, h⟩ := Option.bind_eq_some_iff.mp h
      cases h
      refine List.forall_mem_cons.mpr ⟨?_, ih hrest hcolumns⟩
      cases item with
      | column source outputName =>
          cases hcolumn
          exact hitem.1
      | star => contradiction
      | aggregate call outputName => contradiction

theorem wellFormed_resultStages {q : Query} (hq : q.WellFormed literal) {source p : Plan}
    (hsource : source.WellFormed literal) {types : ColumnTypes}
    (h : resultStages q source types = .ok p) : p.WellFormed literal := by
  have hhaving : ∀ group ∈ q.having, ∀ c ∈ group.conditions, c.WellFormed literal :=
    fun group hgroup => (hq.having group hgroup).condition
  have hrenamed : ∀ {rename : String → Option String},
      (∀ name column, rename name = some column → IsColumn column) →
      ∀ key ∈ q.orderBy.map (renameKey rename), IsColumn key.column := by
    intro rename hrename key hkey
    obtain ⟨key', hkey', rfl⟩ := Option.mem_map.mp hkey
    exact isColumn_renameKey (hq.orderBy key' hkey') hrename
  unfold resultStages at h
  split at h
  next =>
    split at h
    next =>
      split at h
      · contradiction
      · cases h
        exact ⟨hsource, by simp, hq.item, hhaving⟩
    next =>
      split at h <;> cases h
      · exact wellFormed_finalStages hsource q (by simp) hq.orderBy
      · refine ⟨wellFormed_finalStages hsource q ?_ (hrenamed fun _ _ =>
          isColumn_sourceOfOutput? hq.item), hq.item⟩
        exact fun names hnames => isColumn_sourceName? hq.item hnames
  next groupBy hgroupBy =>
    split at h <;> cases h
    · exact wellFormed_finalStages hsource q (by simp) hq.orderBy
    · have hgroup : (group source groupBy q.items q.having types).WellFormed literal :=
        ⟨hsource, hq.groupBy groupBy hgroupBy, hq.item, hhaving⟩
      exact wellFormed_finalStages hgroup q (by simp)
        (hrenamed fun _ _ => isColumn_outputOfSource? hq.item)

/-! ## Statements -/

/-- The key is named by the constraint or by a column. -/
theorem isName_of_declaredKey {name : String} {columns : List ColumnDefinition}
    {key primaryKey : Option String}
    (hs : (Statement.createTable name columns key).WellFormed literal)
    (h : declaredKey name columns key = .ok primaryKey) {other : String}
    (hother : other ∈ primaryKey) : IsName other := by
  unfold declaredKey at h
  split at h
  next =>
    cases h
    contradiction
  next declared hdeclared =>
    cases h
    cases hother
    have hmem : other ∈ key.toList ++ (columns.filter (·.isKey)).map (·.name) := by
      rw [hdeclared]
      exact List.mem_cons_self
    rcases List.mem_append.mp hmem with hmem | hmem
    · exact hs.2.2.1 other (Option.mem_toList.mp hmem)
    · obtain ⟨column, hcolumn, rfl⟩ := List.mem_map.mp hmem
      exact hs.2.1 column (List.mem_filter.mp hcolumn).1
  next => contradiction

/-- **The plan of a well-formed statement is well-formed.** -/
theorem wellFormed_ofStatement (hc : c.Spellable) {s : Statement} (hs : s.WellFormed literal)
    {p : Plan} (h : ofStatement c s = .ok p) : p.WellFormed literal := by
  cases s with
  | createTable name columns key =>
      obtain ⟨primaryKey, hkey, h⟩ := bind_eq_ok_iff.mp h
      cases h
      refine ⟨hs.1, fun column hcolumn => ?_, fun other hother => ?_⟩
      · obtain ⟨definition, hdefinition, rfl⟩ := List.mem_map.mp hcolumn
        exact hs.2.1 definition hdefinition
      · exact isName_of_declaredKey hs hkey hother
  | insert table columns values =>
      cases h
      exact ⟨hs.1, hs.2.2.1, fun v hv => (hs.2.2.2.2.2 v hv).1⟩
  | update table assignments test =>
      cases h
      exact ⟨hs.1, hs.2.2⟩
  | delete table test =>
      cases test with
      | none => contradiction
      | some test =>
          cases h
          exact ⟨hs.1, hs.2 test rfl⟩
  | select q =>
      obtain ⟨source, types, filtered, hstages, hfilter, -, hresult⟩ := ofQuery_eq_ok h
      refine wellFormed_resultStages hs (wellFormed_filterStage ?_ ?_ hfilter) hresult
      · exact wellFormed_sourceStages hc (fun j hj => ⟨(hs.join j hj).left, (hs.join j hj).right⟩)
          hstages
      · exact fun group hgroup => (hs.filter group hgroup).condition

/-! ## Refusals -/

variable {texts : String → Prop}

theorem failsOnly_sourceStages (c : Catalog) {source : TableReference} {joins : List Join}
    (hsource : IsName source.name) (hjoins : ∀ join ∈ joins, IsName join.table) :
    FailsOnly (Error.SingleLineUnless texts) (sourceStages c source joins) := by
  refine failsOnly_bind (c.failsOnly_find hsource.singleLine) fun t _ => ?_
  refine failsOnly_foldlM (fun stage join hjoin => ?_) _
  exact failsOnly_bind (c.failsOnly_find (hjoins join hjoin).singleLine) fun _ _ => failsOnly_ok _

theorem failsOnly_filterStage (source : Plan) (filter : Option ConditionGroup)
    (types : ColumnTypes) :
    FailsOnly (Error.SingleLineUnless texts) (filterStage source filter types) := by
  unfold filterStage
  split
  · exact failsOnly_ok _
  · split
    · exact failsOnly_ok _
    · exact failsOnly_error (Error.singleLineUnless_of_singleLine (by decide))

/-- An item that cannot stand beside an aggregate is shown by the name of its column. -/
theorem failsOnly_resultStages {q : Query} (hq : ∀ item ∈ q.items, item.WellFormed) (source : Plan)
    (types : ColumnTypes) :
    FailsOnly (Error.SingleLineUnless texts) (resultStages q source types) := by
  unfold resultStages
  split
  · split
    · split
      next name hname =>
        obtain ⟨item, hitem, hungrouped⟩ := List.exists_of_findSome?_eq_some hname
        have hsingle : SingleLine name := by
          have hwf := hq item hitem
          cases item with
          | star =>
              cases hungrouped
              decide
          | column column outputName =>
              cases hungrouped
              exact hwf.1.singleLine
          | aggregate call outputName => contradiction
        refine failsOnly_error (Error.singleLineUnless_of_singleLine (.append (by decide) ?_))
        exact hsingle.append (by decide)
      next => exact failsOnly_ok _
    · split <;> exact failsOnly_ok _
  · split <;> exact failsOnly_ok _

theorem failsOnly_ofQuery (c : Catalog) {q : Query} (hq : q.WellFormed literal) :
    FailsOnly (Error.SingleLineUnless texts) (ofQuery c q) := by
  refine failsOnly_bind (failsOnly_sourceStages c hq.source fun j hj => (hq.join j hj).table)
    fun stage _ => ?_
  refine failsOnly_bind (failsOnly_filterStage _ _ _) fun filtered _ => ?_
  dsimp only
  split
  · exact failsOnly_error (Error.singleLineUnless_of_singleLine (by decide))
  · exact failsOnly_resultStages hq.item filtered stage.2

/-- **A statement that cannot be planned is refused with a single line.** -/
theorem failsOnly_ofStatement (c : Catalog) {s : Statement} (hs : s.WellFormed literal) :
    FailsOnly (Error.SingleLineUnless texts) (ofStatement c s) := by
  cases s with
  | createTable name columns key =>
      refine failsOnly_bind ?_ fun _ _ => failsOnly_ok _
      unfold declaredKey
      split
      · exact failsOnly_ok _
      · exact failsOnly_ok _
      · refine failsOnly_error (Error.singleLineUnless_of_singleLine (.append (by decide) ?_))
        exact (SingleLine.append (by decide) hs.1.singleLine).append (by decide)
  | insert table columns values => exact failsOnly_ok _
  | update table assignments test => exact failsOnly_ok _
  | delete table test =>
      cases test with
      | none => exact failsOnly_error (Error.singleLineUnless_of_singleLine (by decide))
      | some test => exact failsOnly_ok _
  | select q => exact failsOnly_ofQuery c hs

end Plan

end RelStore
