import RelStore.Proofs.Relation.Grouping
import RelStore.Proofs.Relation.NestedLoop
import RelStore.Proofs.Relation.Typed
import RelStore.Proofs.Session.Reachable

/-!
# The types of a query's source

The planner keeps the types of a source's columns by name, the rows are read by position.  Position
by position the values are of the types that the tables declare, whatever tables are joined in
whatever way (`describes_sourceStages`).  By name they are as long as columns of one name are of one
type; otherwise a later column takes the place of an earlier one, as it does when two tables are
joined under one qualifier (`typed_sourceStages_sharedQualifier`).

Where the types are right, every condition on a column, of rows or of groups, is one on a literal
that is cast to the type of that column (`typed_sourceStages`).
-/

namespace RelStore

/-! ## Joined rows -/

/-- A null may stand in every column. -/
theorem forall₂_nulls (declared : List (String × ColumnType)) :
    List.Forall₂ (fun column v => column.2.Holds v) declared (nulls declared.length) := by
  induction declared with
  | nil => exact .nil
  | cons column declared ih => exact .cons (by cases column.2 <;> trivial) ih

/-- **A join puts the columns of the table behind those before**, whatever rows it keeps. -/
theorem Relation.Fits.join {r r' : Relation} {t : Table} {declared : List (String × ColumnType)}
    (hr : r.Fits declared) (ht : t.Valid) {kind : JoinKind} {left right qualifier : String}
    (h : r.join t kind left right qualifier = .ok r') :
    r'.Fits (declared ++
      t.schema.columns.map fun column => (qualify qualifier column.name, column.type)) := by
  let added := t.schema.columns.map fun column => (qualify qualifier column.name, column.type)
  have hadded : added.length = t.schema.columnNames.length := by
    simp [added, Schema.columnNames]
  have hother : ∀ other ∈ t.rows, List.Forall₂ (fun column v => column.2.Holds v) added other := by
    intro other hother
    rw [List.forall₂_map_left_iff]
    exact ht.admits other hother
  rw [Relation.join_eq] at h
  obtain ⟨i, -, h⟩ := bind_eq_ok_iff.mp h
  obtain ⟨j, -, h⟩ := bind_eq_ok_iff.mp h
  cases h
  refine ⟨?_, fun row hrow => ?_⟩
  · rw [List.map_append, hr.columns_eq]
    simp [Schema.columnNames, Function.comp_def]
  · rcases List.mem_append.mp hrow with hrow | hrow
    · obtain ⟨source, hsource, hrow⟩ := List.mem_flatMap.mp hrow
      unfold joinRow at hrow
      split at hrow
      next =>
        split at hrow
        · rw [List.mem_singleton.mp hrow, ← hadded]
          exact List.rel_append (hr.row source hsource) (forall₂_nulls added)
        · contradiction
      next =>
        obtain ⟨other, hpartner, rfl⟩ := List.mem_map.mp hrow
        have hmem := (List.mem_filter.mp hpartner).1
        exact List.rel_append (hr.row source hsource) (hother other hmem)
    · split at hrow
      · obtain ⟨other, hrest, rfl⟩ := List.mem_map.mp hrow
        have hmem := (List.mem_filter.mp hrest).1
        have hwidth : r.columns.length = declared.length := by simp [hr.columns_eq]
        rw [hwidth]
        exact List.rel_append (forall₂_nulls declared) (hother other hmem)
      · contradiction

/-! ## The stages of a source -/

namespace Plan

/-- The columns so far and those of a joined table, each with its name in the rows and its type. -/
def joinedColumns (c : Catalog) (declared : List (String × ColumnType)) (join : Join) :
    Except Error (List (String × ColumnType)) := do
  let schema := (← c.find join.table).schema
  return declared ++
    schema.columns.map fun column => (qualify join.rightQualifier column.name, column.type)

/-- The columns that the tables of a query declare, in the order in which they are joined. -/
def declaredColumns (c : Catalog) (source : TableReference) (joins : List Join) :
    Except Error (List (String × ColumnType)) := do
  let schema := (← c.find source.name).schema
  joins.foldlM (joinedColumns c) (schema.columns.map fun column => (column.name, column.type))

/-- The types kept by name are those of the columns, and the stage answers rows that fit them. -/
structure Describes (c : Catalog) (declared : List (String × ColumnType))
    (stage : Plan × ColumnTypes) : Prop where
  types_eq : stage.2 = .ofList declared
  onlyReads : stage.1.OnlyReads
  fits : ∀ r, (stage.1.run c).1 = .ok (.rows r) → r.Fits declared

variable {c : Catalog} {declared : List (String × ColumnType)} {stage stage' : Plan × ColumnTypes}

theorem Describes.joinStage (hc : c.Valid) (h : Describes c declared stage) {join : Join}
    (hjoin : joinStage c stage join = .ok stage') :
    ∃ declared', joinedColumns c declared join = .ok declared' ∧ Describes c declared' stage' := by
  obtain ⟨t, ht, hjoin⟩ := bind_eq_ok_iff.mp hjoin
  cases hjoin
  refine ⟨_, bind_eq_ok_iff.mpr ⟨t, ht, rfl⟩, ?_, h.onlyReads, fun r' hr' => ?_⟩
  · unfold addQualifiedTypes NameMap.ofList
    rw [h.types_eq, List.foldl_append, List.foldl_map]
    rfl
  · obtain ⟨r, hr, hjoined⟩ := andThen_eq_ok_iff.mp hr'
    rw [(h.onlyReads.run c).1] at hjoined
    obtain ⟨t', ht', hjoined⟩ := bind_eq_ok_iff.mp hjoined
    cases ht'.symm.trans (hc.find_schema_name ht)
    exact (h.fits r hr).join (hc.of_find ht) hjoined

theorem Describes.foldlM (hc : c.Valid) {joins : List Join} (h : Describes c declared stage)
    (hjoins : joins.foldlM (Plan.joinStage c) stage = .ok stage') :
    ∃ declared', joins.foldlM (joinedColumns c) declared = .ok declared' ∧
      Describes c declared' stage' := by
  induction joins generalizing stage declared with
  | nil =>
      cases hjoins
      exact ⟨declared, rfl, h⟩
  | cons join joins ih =>
      rw [List.foldlM_cons] at hjoins
      obtain ⟨next, hnext, hjoins⟩ := bind_eq_ok_iff.mp hjoins
      obtain ⟨joined, hjoined, hdescribes⟩ := h.joinStage hc hnext
      obtain ⟨declared', hdeclared, h'⟩ := ih hdescribes hjoins
      exact ⟨declared', by rw [List.foldlM_cons, hjoined]; exact hdeclared, h'⟩

/-- **The rows of a source fit the columns that its tables declare.** -/
theorem describes_sourceStages (hc : c.Valid) {source : TableReference} {joins : List Join}
    (h : sourceStages c source joins = .ok stage) :
    ∃ declared, declaredColumns c source joins = .ok declared ∧ Describes c declared stage := by
  obtain ⟨t, ht, h⟩ := bind_eq_ok_iff.mp h
  have hscan : ∀ r, ((scan t.schema.name).run c).1 = .ok (.rows r) →
      r.Fits (t.schema.columns.map fun column => (column.name, column.type)) := by
    intro r hr
    obtain ⟨t', ht', hr⟩ := map_eq_ok_iff.mp hr
    cases ht'.symm.trans (hc.find_schema_name ht)
    cases hr
    exact Relation.fits_ofTable (hc.of_find ht)
  have hbase : Describes c (t.schema.columns.map fun column => (column.name, column.type))
      (.scan t.schema.name,
        .ofList (t.schema.columns.map fun column => (column.name, column.type))) :=
    ⟨rfl, trivial, hscan⟩
  obtain ⟨declared, hdeclared, hdescribes⟩ := hbase.foldlM hc h
  exact ⟨declared, bind_eq_ok_iff.mpr ⟨t, ht, hdeclared⟩, hdescribes⟩

end Plan

/-! ## Conditions on columns of known types -/

/-- The literal is cast for comparison to a type that the values at the position are of. -/
def Relation.CastFor (r : Relation) (i : Nat) (literal comparand : Value) : Prop :=
  ∃ type : ColumnType, type.castComparand literal = .ok comparand ∧
    ∀ row ∈ r.rows, type.Holds (cellAt row i)

/-- The values are some of those in the column at the position: the column is grouped by, or they
are the least or the greatest in it. -/
def CellSource.Reads (columns : List String) (i : Nat) : CellSource → Prop
  | position j => i = j
  | aggregate call => (call.function = .min ∨ call.function = .max) ∧
    ∃ name ∈ call.column, RelStore.position columns name = .ok i

/-- The type is that of the column that the values are from, if they are from one. -/
def Relation.TypesSource (r : Relation) (source : CellSource) (type? : Option ColumnType) : Prop :=
  ∀ i, source.Reads r.columns i →
    ∃ type, type? = some type ∧ ∀ row ∈ r.rows, type.Holds (cellAt row i)

namespace Relation.Typed

variable {r : Relation} {types : ColumnTypes}

/-- A column found has its type. -/
theorem columnType? (hr : r.Typed types) {name : String} {i : Nat}
    (h : position r.columns name = .ok i) :
    ∃ type, RelStore.columnType? types r.columns name = some type ∧
      ∀ row ∈ r.rows, type.Holds (cellAt row i) := by
  obtain ⟨type, htype, hholds⟩ := hr i (lt_length_of_position_eq_ok h)
  refine ⟨type, ?_, hholds⟩
  unfold RelStore.columnType?
  rw [position_eq_ok_iff.mp h]
  exact htype

/-- **The literal of a condition on rows is cast to the type of its column.** -/
theorem castFor_of_bindCondition (hr : r.Typed types) {c : Condition} {bound : BoundCondition}
    (h : bindCondition r.columns types c = .ok bound) :
    r.CastFor bound.position c.literal bound.comparand := by
  unfold bindCondition at h
  split at h
  next => contradiction
  next name _ =>
    obtain ⟨i, hi, h⟩ := bind_eq_ok_iff.mp h
    obtain ⟨comparand, hcast, h⟩ := bind_eq_ok_iff.mp h
    cases h
    obtain ⟨type, htype, hholds⟩ := hr i (lt_length_of_position_eq_ok hi)
    rw [htype] at hcast
    exact ⟨type, hcast, hholds⟩

section Groups

variable {groupBy : List String} {positions : List Nat}

theorem typesSource_position (hr : r.Typed types) {name : String} {i : Nat}
    (h : position r.columns name = .ok i) :
    r.TypesSource (.position i) (RelStore.columnType? types r.columns name) := by
  rintro _ rfl
  exact hr.columnType? h

theorem typesSource_aggregate (hr : r.Typed types) (call : Aggregate) :
    r.TypesSource (.aggregate call)
      (GroupingContext.aggregateType? ⟨r.columns, types, groupBy, positions⟩ call) := by
  rintro i ⟨hfunction, name, hname, hi⟩
  have htype : GroupingContext.aggregateType? ⟨r.columns, types, groupBy, positions⟩ call =
      RelStore.columnType? types r.columns name := by
    unfold GroupingContext.aggregateType?
    rcases hfunction with h | h <;> rw [h, Option.mem_def.mp hname] <;> rfl
  rw [htype]
  exact hr.columnType? hi

/-- A column of a grouped result has the type of the column that its values are from. -/
theorem typesSource_of_fields (hr : r.Typed types)
    (hpositions : groupBy.mapM (position r.columns) = .ok positions) {item : SelectItem}
    {fields : List OutputField}
    (h : GroupingContext.fields ⟨r.columns, types, groupBy, positions⟩ item = .ok fields)
    {field : OutputField} (hfield : field ∈ fields) : r.TypesSource field.source field.type := by
  cases item with
  | star =>
      cases h
      obtain ⟨⟨name, i⟩, hpair, rfl⟩ := List.mem_map.mp hfield
      exact hr.typesSource_position
        ((List.forall₂_iff_zip.mp (mapM_eq_ok_iff.mp hpositions)).2 hpair)
  | column name outputName =>
      obtain ⟨i, hi, h⟩ := bind_eq_ok_iff.mp h
      split at h
      next =>
        cases h
        rw [List.mem_singleton.mp hfield]
        exact hr.typesSource_position hi
      next => contradiction
  | aggregate call outputName =>
      cases h
      rw [List.mem_singleton.mp hfield]
      exact hr.typesSource_aggregate call

/-- What a name in a condition on groups stands for has the type of the column that it is from. -/
theorem typesSource_of_namedSource (hr : r.Typed types) {fields : List OutputField}
    (hfields : ∀ field ∈ fields, r.TypesSource field.source field.type) {name : String}
    {source : CellSource} {type? : Option ColumnType}
    (h : GroupingContext.namedSource ⟨r.columns, types, groupBy, positions⟩ fields name =
      .ok (source, type?)) : r.TypesSource source type? := by
  unfold GroupingContext.namedSource at h
  split at h
  next field hfield =>
    cases h
    obtain ⟨j, -, hj⟩ := Option.bind_eq_some_iff.mp hfield
    exact hfields field (List.mem_of_getElem? hj)
  next =>
    split at h
    next j hj =>
      split at h
      next =>
        cases h
        exact hr.typesSource_position (position_eq_ok_iff.mpr hj)
      next => contradiction
    next => contradiction

/-- **The literal of a condition on groups is cast to the type of the column that it is compared
with.** -/
theorem castFor_of_bindGroupCondition (hr : r.Typed types) {fields : List OutputField}
    (hfields : ∀ field ∈ fields, r.TypesSource field.source field.type) {c : Condition}
    {bound : GroupCondition}
    (h : GroupingContext.bindCondition ⟨r.columns, types, groupBy, positions⟩ fields c = .ok bound)
    {i : Nat} (hi : bound.source.Reads r.columns i) : r.CastFor i c.literal bound.comparand := by
  have hcast : ∀ source type?, r.TypesSource source type? →
      (castComparandTo type? c.literal >>= fun comparand =>
        (.ok ⟨source, c.comparison, comparand⟩ : Except Error GroupCondition)) = .ok bound →
      r.CastFor i c.literal bound.comparand := by
    intro source type? htypes h
    obtain ⟨comparand, hcomparand, h⟩ := bind_eq_ok_iff.mp h
    cases h
    obtain ⟨type, rfl, hholds⟩ := htypes i hi
    exact ⟨type, hcomparand, hholds⟩
  unfold GroupingContext.bindCondition at h
  split at h
  next call _ =>
    obtain ⟨_, hsource, h⟩ := bind_eq_ok_iff.mp h
    cases hsource
    exact hcast _ _ (hr.typesSource_aggregate call) h
  next name _ =>
    obtain ⟨⟨source, type?⟩, hsource, h⟩ := bind_eq_ok_iff.mp h
    exact hcast source type? (hr.typesSource_of_namedSource hfields hsource) h

/-- The literals of all conditions on groups are cast so. -/
theorem castFor_of_bindGrouping (hr : r.Typed types) {items : List SelectItem}
    {having : ConditionGroup} {g : BoundGrouping}
    (h : bindGrouping r.columns groupBy items (some having) types = .ok g) :
    ∃ bounds, g.having = some (having.connective, bounds) ∧
      List.Forall₂ (fun c bound => ∀ i, bound.source.Reads r.columns i →
        r.CastFor i c.literal bound.comparand) having.conditions bounds := by
  obtain ⟨hpositions, ⟨lists, hlists, hflatten⟩, hhaving, -⟩ := bindGrouping_eq_ok h
  have hfields : ∀ field ∈ g.fields, r.TypesSource field.source field.type := by
    intro field hfield
    rw [hflatten] at hfield
    obtain ⟨list, hlist, hfield⟩ := List.mem_flatten.mp hfield
    obtain ⟨item, -, hitem⟩ := exists_mem_of_forall₂ (mapM_eq_ok_iff.mp hlists) hlist
    exact hr.typesSource_of_fields hpositions hitem hfield
  obtain ⟨bound, hbound, hhaving⟩ := map_eq_ok_iff.mp hhaving
  obtain ⟨bounds, hbounds, hbound⟩ := bind_eq_ok_iff.mp hbound
  cases hbound
  refine ⟨bounds, hhaving.symm, (mapM_eq_ok_iff.mp hbounds).imp fun c bound hbound i hi => ?_⟩
  exact hr.castFor_of_bindGroupCondition hfields hbound hi

end Groups

end Relation.Typed

/-! ## Sources whose columns of one name are of one type -/

namespace Plan

/-- **The types of a source are right where columns of one name are of one type.**  On the catalog
that a run of statements ends with, let the tables of a query be joined in whatever way.  The values
of a row are one by one nulls or of the types that the tables declare for the columns, and the
planner keeps under a name the type of the last column of that name.  If columns of one name are of
one type, then the type kept under the name of a position is that of the values there, and every
literal of a condition, on rows or on groups, is cast to the type of the column that it is compared
with. -/
theorem typed_sourceStages (statements : List String) {source : TableReference} {joins : List Join}
    {stage : Plan} {types : ColumnTypes} {r : Relation}
    (hstages : sourceStages (Session.executeAll ∅ statements).2 source joins = .ok (stage, types))
    (hrun : (stage.run (Session.executeAll ∅ statements).2).1 = .ok (.rows r)) :
    ∃ declared,
      declaredColumns (Session.executeAll ∅ statements).2 source joins = .ok declared ∧
      r.Fits declared ∧ (∀ name, types.get? name = declared.reverse.lookup name) ∧
      ((∀ column ∈ declared, ∀ other ∈ declared, column.1 = other.1 → column.2 = other.2) →
        r.Typed types ∧
        (∀ c bound, Relation.bindCondition r.columns types c = .ok bound →
          r.CastFor bound.position c.literal bound.comparand) ∧
        ∀ groupBy items (having : ConditionGroup) g,
          bindGrouping r.columns groupBy items (some having) types = .ok g →
          ∃ bounds, g.having = some (having.connective, bounds) ∧
            List.Forall₂ (fun c bound => ∀ i, bound.source.Reads r.columns i →
              r.CastFor i c.literal bound.comparand) having.conditions bounds) := by
  obtain ⟨declared, hdeclared, hdescribes⟩ :=
    describes_sourceStages (Catalog.valid_executeAll statements) hstages
  have hfits := hdescribes.fits r hrun
  have htypes : types = .ofList declared := hdescribes.types_eq
  refine ⟨declared, hdeclared, hfits, fun name => ?_, fun hagree => ?_⟩
  · rw [htypes, NameMap.get?_ofList]
  · have htyped : r.Typed types := htypes ▸ hfits.typed hagree
    exact ⟨htyped, fun _ _ => htyped.castFor_of_bindCondition,
      fun _ _ _ _ => htyped.castFor_of_bindGrouping⟩

/-- Two tables joined under qualifiers of their own, one of them without a partner. -/
theorem typed_sourceStages_ownQualifiers :
    let statements := ["CREATE TABLE t (k INT)", "CREATE TABLE u (a INT)",
      "CREATE TABLE v (a TEXT)", "INSERT INTO t (k) VALUES (1)", "INSERT INTO u (a) VALUES (1)"]
    let c := (Session.executeAll ∅ statements).2
    let joins : List Join :=
      [⟨"u", .left, "k", "x.a", "t", "x"⟩, ⟨"v", .left, "k", "y.a", "t", "y"⟩]
    let r : Relation := ⟨["k", "x.a", "y.a"], [[.integer 1, .integer 1, .null]]⟩
    ∃ stage types, sourceStages c ⟨"t", none⟩ joins = .ok (stage, types) ∧
      (stage.run c).1 = .ok (.rows r) ∧ r.Typed types ∧
      r.CastFor 1 (.text "1") (.integer 1) := by
  intro statements c joins r
  have hc : c = ⟨.ofList [("t", ⟨⟨"t", [⟨"k", .integer⟩], none⟩, [[.integer 1]]⟩),
      ("u", ⟨⟨"u", [⟨"a", .integer⟩], none⟩, [[.integer 1]]⟩),
      ("v", ⟨⟨"v", [⟨"a", .text⟩], none⟩, []⟩)]⟩ := by decide +kernel
  let stage : Plan := .join (.join (.scan "t") "u" .left "k" "x.a" "x") "v" .left "k" "y.a" "y"
  let types : ColumnTypes := .ofList [("k", .integer), ("x.a", .integer), ("y.a", .text)]
  have hstages : sourceStages c ⟨"t", none⟩ joins = .ok (stage, types) := by
    rw [hc]
    rfl
  have hrun : (stage.run c).1 = .ok (.rows r) := by
    rw [hc]
    rfl
  have hdeclared : declaredColumns c ⟨"t", none⟩ joins =
      .ok [("k", .integer), ("x.a", .integer), ("y.a", .text)] := by
    rw [hc]
    rfl
  obtain ⟨declared, hdeclared', -, -, hagree⟩ := typed_sourceStages statements hstages hrun
  cases hdeclared.symm.trans hdeclared'
  obtain ⟨htyped, hcast, -⟩ := hagree (by decide)
  have hbound : Relation.bindCondition r.columns types ⟨.column "x.a", .equal, .text "1"⟩ =
      .ok ⟨1, .equal, .integer 1⟩ := by decide +kernel
  exact ⟨stage, types, hstages, hrun, htyped, hcast _ _ hbound⟩

/-- Two tables joined under one qualifier: the type of the second is kept for the column of the
first, and a literal compared with that column is cast to it. -/
theorem typed_sourceStages_sharedQualifier :
    let c := (Session.executeAll ∅ ["CREATE TABLE t (k INT)", "CREATE TABLE u (a INT)",
      "CREATE TABLE v (a TEXT)", "INSERT INTO t (k) VALUES (1)", "INSERT INTO u (a) VALUES (1)"]).2
    let joins : List Join :=
      [⟨"u", .left, "k", "x.a", "t", "x"⟩, ⟨"v", .left, "k", "x.a", "t", "x"⟩]
    let r : Relation := ⟨["k", "x.a", "x.a"], [[.integer 1, .integer 1, .null]]⟩
    ∃ stage types, sourceStages c ⟨"t", none⟩ joins = .ok (stage, types) ∧
      (stage.run c).1 = .ok (.rows r) ∧ ¬ r.Typed types ∧
      Relation.bindCondition r.columns types ⟨.column "x.a", .equal, .integer 1⟩ =
        .ok ⟨1, .equal, .text "1"⟩ := by
  intro c joins r
  have hc : c = ⟨.ofList [("t", ⟨⟨"t", [⟨"k", .integer⟩], none⟩, [[.integer 1]]⟩),
      ("u", ⟨⟨"u", [⟨"a", .integer⟩], none⟩, [[.integer 1]]⟩),
      ("v", ⟨⟨"v", [⟨"a", .text⟩], none⟩, []⟩)]⟩ := by decide +kernel
  let stage : Plan := .join (.join (.scan "t") "u" .left "k" "x.a" "x") "v" .left "k" "x.a" "x"
  let types : ColumnTypes := .ofList [("k", .integer), ("x.a", .text)]
  refine ⟨stage, types, ?_, ?_, fun htyped => ?_, by decide +kernel⟩
  · rw [hc]
    rfl
  · rw [hc]
    rfl
  · obtain ⟨type, htype, hholds⟩ := htyped 1 (by decide)
    cases htype.symm.trans (show typeAt? types r.columns 1 = some .text from rfl)
    exact hholds _ List.mem_cons_self

end Plan

end RelStore
