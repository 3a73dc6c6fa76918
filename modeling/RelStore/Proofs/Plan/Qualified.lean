import RelStore.Proofs.Plan.SourceTypes
import RelStore.Proofs.Session.Matching

/-!
# Qualified names reach their own table

The rows of a query with joins have the columns of the first table under their own names and those
of a joined table behind its qualifier.  No name has a point in it, so a qualified name is told from
an unqualified one by its point, and where the qualifiers differ, no two columns have one name.

A name then finds its column by the attempt that is meant for it: a column of a joined table by its
full name, one of the first table without its qualifier, and an unqualified name as a column of the
first table or else as the one qualified column behind whose point it stands
(`position_qualified`).
-/

namespace RelStore

theorem qualify_inj {q q' x x' : String} (hq : '.' ∉ q.toList) (hq' : '.' ∉ q'.toList) :
    qualify q x = qualify q' x' ↔ q = q' ∧ x = x' := by
  refine ⟨fun h => ?_, fun ⟨hq, hx⟩ => by rw [hq, hx]⟩
  have hsplit : splitQualified? (qualify q x) = some (q, x) := splitQualified?_qualify hq
  rw [h, splitQualified?_qualify hq'] at hsplit
  exact Prod.mk.inj (Option.some.inj hsplit.symm)

theorem idxOf?_of_nodup {columns : List String} {name : String} {i : ℕ} (hnodup : columns.Nodup)
    (h : columns[i]? = some name) : columns.idxOf? name = some i := by
  obtain ⟨hi, rfl⟩ := List.getElem?_eq_some_iff.mp h
  rw [List.idxOf?_eq_some_iff]
  refine ⟨hi, rfl, fun j hj heq => ?_⟩
  have := (List.Nodup.getElem_inj_iff hnodup).mp heq
  omega

theorem eq_singleton_iff_of_nodup {α : Type} {l : List α} {a : α} (h : l.Nodup) :
    l = [a] ↔ ∀ b, b ∈ l ↔ b = a := by
  rw [← List.perm_singleton, List.perm_ext_iff_of_nodup h (List.nodup_singleton a)]
  simp only [List.mem_singleton]

theorem getElem?_columnNames {t : Table} {i : ℕ} {column : Column}
    (h : t.schema.columns[i]? = some column) : t.schema.columnNames[i]? = some column.name := by
  rw [Schema.columnNames, List.getElem?_map, h]
  rfl

/-! ## The columns of a chain of joins -/

/-- The columns of a table and of those joined to it, each behind its qualifier. -/
def chainColumns (base : Table) (joined : List (String × Table)) : List String :=
  base.schema.columnNames ++ joined.flatMap fun j => j.2.schema.columnNames.map (qualify j.1)

/-- The same columns, each with its declared type. -/
def chainDeclared (base : Table) (joined : List (String × Table)) : List (String × ColumnType) :=
  (base.schema.columns.map fun column => (column.name, column.type)) ++
    joined.flatMap fun j => j.2.schema.columns.map fun column =>
      (qualify j.1 column.name, column.type)

theorem map_fst_chainDeclared (base : Table) (joined : List (String × Table)) :
    (chainDeclared base joined).map (·.1) = chainColumns base joined := by
  simp [chainDeclared, chainColumns, Schema.columnNames, List.map_flatMap, Function.comp_def]

/-- Columns have different names in their own table, no name has a point in it, and no two tables
have one qualifier. -/
structure QualifiedApart (qualifier : String) (base : Table) (joined : List (String × Table)) :
    Prop where
  nodup_base : base.schema.columnNames.Nodup
  notMem_base : ∀ x ∈ base.schema.columnNames, '.' ∉ x.toList
  nodup_joined : ∀ j ∈ joined, j.2.schema.columnNames.Nodup
  notMem_own : '.' ∉ qualifier.toList
  notMem_qualifier : ∀ j ∈ joined, '.' ∉ j.1.toList
  distinct : (qualifier :: joined.map (·.1)).Nodup

namespace QualifiedApart

variable {qualifier : String} {base : Table} {joined : List (String × Table)}

/-- A name with a qualifier is that of a column of the joined table with this qualifier. -/
theorem qualify_mem_iff (h : QualifiedApart qualifier base joined) {q x : String}
    (hq : '.' ∉ q.toList) :
    qualify q x ∈ chainColumns base joined ↔
      ∃ j ∈ joined, j.1 = q ∧ x ∈ j.2.schema.columnNames := by
  unfold chainColumns
  simp only [List.mem_append, List.mem_flatMap, List.mem_map]
  constructor
  · rintro (hbase | ⟨j, hj, y, hy, heq⟩)
    · exact absurd (point_mem_qualify q x) (h.notMem_base _ hbase)
    · obtain ⟨hqualifier, rfl⟩ := (qualify_inj (h.notMem_qualifier j hj) hq).mp heq
      exact ⟨j, hj, hqualifier, hy⟩
  · rintro ⟨j, hj, rfl, hx⟩
    exact .inr ⟨j, hj, x, hx, rfl⟩

/-- A name without a point is that of a column of the first table. -/
theorem mem_iff_of_notMem {x : String} (hx : '.' ∉ x.toList) :
    x ∈ chainColumns base joined ↔ x ∈ base.schema.columnNames := by
  unfold chainColumns
  refine ⟨fun hmem => ?_, List.mem_append_left _⟩
  rcases List.mem_append.mp hmem with hmem | hmem
  · exact hmem
  · obtain ⟨j, -, hmem⟩ := List.mem_flatMap.mp hmem
    obtain ⟨y, -, rfl⟩ := List.mem_map.mp hmem
    exact absurd (point_mem_qualify _ _) hx

theorem eq_of_fst_eq (h : QualifiedApart qualifier base joined) {j j' : String × Table}
    (hj : j ∈ joined) (hj' : j' ∈ joined) (heq : j.1 = j'.1) : j = j' :=
  List.inj_on_of_nodup_map (List.nodup_cons.mp h.distinct).2 hj hj' heq

/-- **No two columns have one name.** -/
theorem nodup_chainColumns (h : QualifiedApart qualifier base joined) :
    (chainColumns base joined).Nodup := by
  refine List.nodup_append'.mpr ⟨h.nodup_base, List.nodup_flatMap.mpr ⟨fun j hj => ?_, ?_⟩, ?_⟩
  · refine (h.nodup_joined j hj).map_on fun x _ y _ heq => ?_
    exact ((qualify_inj (h.notMem_qualifier j hj) (h.notMem_qualifier j hj)).mp heq).2
  · have hpairwise := List.pairwise_map.mp (List.nodup_cons.mp h.distinct).2
    refine hpairwise.imp_of_mem fun {j j'} hj hj' hne x hx hx' => ?_
    obtain ⟨y, -, rfl⟩ := List.mem_map.mp hx
    obtain ⟨y', -, heq⟩ := List.mem_map.mp hx'
    exact hne ((qualify_inj (h.notMem_qualifier j' hj') (h.notMem_qualifier j hj)).mp heq).1.symm
  · intro x hx hjoined
    obtain ⟨j, -, hx'⟩ := List.mem_flatMap.mp hjoined
    obtain ⟨y, -, rfl⟩ := List.mem_map.mp hx'
    exact h.notMem_base _ hx (point_mem_qualify _ _)

/-- The first table has no qualified column. -/
theorem idxOf?_own (h : QualifiedApart qualifier base joined) (x : String) :
    (chainColumns base joined).idxOf? (qualify qualifier x) = none := by
  rw [List.idxOf?_eq_none_iff, h.qualify_mem_iff h.notMem_own]
  rintro ⟨j, hj, rfl, -⟩
  exact (List.nodup_cons.mp h.distinct).1 (List.mem_map_of_mem hj)

/-- A column of the first table stands where that table declares it. -/
theorem getElem?_base {i : ℕ} {x : String} (hx : base.schema.columnNames[i]? = some x) :
    (chainColumns base joined)[i]? = some x := by
  obtain ⟨hi, -⟩ := List.getElem?_eq_some_iff.mp hx
  rw [chainColumns, List.getElem?_append_left hi, hx]

theorem idxOf?_base (h : QualifiedApart qualifier base joined) {i : ℕ} {x : String}
    (hx : base.schema.columnNames[i]? = some x) :
    (chainColumns base joined).idxOf? x = some i :=
  idxOf?_of_nodup h.nodup_chainColumns (getElem?_base hx)

/-- A column of a joined table stands behind those of the tables before. -/
theorem getElem?_joined {before after : List (String × Table)} {j : String × Table} {i : ℕ}
    {x : String} (hx : j.2.schema.columnNames[i]? = some x) :
    (chainColumns base (before ++ j :: after))[(chainColumns base before).length + i]? =
      some (qualify j.1 x) := by
  obtain ⟨hi, -⟩ := List.getElem?_eq_some_iff.mp hx
  have hsplit : chainColumns base (before ++ j :: after) = chainColumns base before ++
      (j.2.schema.columnNames.map (qualify j.1) ++
        after.flatMap fun j => j.2.schema.columnNames.map (qualify j.1)) := by
    simp [chainColumns]
  rw [hsplit, List.getElem?_append_right (Nat.le_add_right _ _), Nat.add_sub_cancel_left,
    List.getElem?_append_left (by simpa using hi), List.getElem?_map, hx]
  rfl

theorem idxOf?_joined {before after : List (String × Table)} {j : String × Table}
    (h : QualifiedApart qualifier base (before ++ j :: after)) {i : ℕ} {x : String}
    (hx : j.2.schema.columnNames[i]? = some x) :
    (chainColumns base (before ++ j :: after)).idxOf? (qualify j.1 x) =
      some ((chainColumns base before).length + i) :=
  idxOf?_of_nodup h.nodup_chainColumns (getElem?_joined hx)

/-! ## Unqualified names -/

/-- What stands behind the point of a column is the name of a column of the table joined there. -/
theorem mem_qualifiedPositions (h : QualifiedApart qualifier base joined) {x : String} {p : ℕ} :
    p ∈ qualifiedPositions (chainColumns base joined) x ↔
      ∃ j ∈ joined, x ∈ j.2.schema.columnNames ∧
        (chainColumns base joined)[p]? = some (qualify j.1 x) := by
  unfold qualifiedPositions
  rw [List.mem_filter, List.mem_range, decide_eq_true_eq, Option.bind_eq_some_iff]
  constructor
  · rintro ⟨-, name, hname, hunqualified⟩
    rcases List.mem_append.mp (List.mem_of_getElem? hname) with hbase | hjoined
    · rw [unqualified?_eq_none (h.notMem_base _ hbase)] at hunqualified
      contradiction
    · obtain ⟨j, hj, hname'⟩ := List.mem_flatMap.mp hjoined
      obtain ⟨y, hy, rfl⟩ := List.mem_map.mp hname'
      rw [unqualified?_qualify (h.notMem_qualifier j hj)] at hunqualified
      obtain rfl := Option.some.inj hunqualified
      exact ⟨j, hj, hy, hname⟩
  · rintro ⟨j, hj, -, hname⟩
    exact ⟨(List.getElem?_eq_some_iff.mp hname).1, _, hname,
      unqualified?_qualify (h.notMem_qualifier j hj)⟩

/-- The joined tables that declare a column of the name. -/
def declaring (joined : List (String × Table)) (x : String) : List (String × Table) :=
  joined.filter fun j => x ∈ j.2.schema.columnNames

theorem nodup_declaring (h : QualifiedApart qualifier base joined) (x : String) :
    (declaring joined x).Nodup :=
  (List.Nodup.of_map _ (List.nodup_cons.mp h.distinct).2).filter _

theorem mem_declaring {x : String} {j : String × Table} :
    j ∈ declaring joined x ↔ j ∈ joined ∧ x ∈ j.2.schema.columnNames := by
  simp [declaring]

/-- **One qualified column has the name where one joined table declares it.** -/
theorem qualifiedPositions_eq_singleton_iff (h : QualifiedApart qualifier base joined) {x : String}
    {p : ℕ} :
    qualifiedPositions (chainColumns base joined) x = [p] ↔
      ∃ j, declaring joined x = [j] ∧ (chainColumns base joined)[p]? = some (qualify j.1 x) := by
  have hpositions : (qualifiedPositions (chainColumns base joined) x).Nodup :=
    List.nodup_range.filter _
  simp only [eq_singleton_iff_of_nodup hpositions, eq_singleton_iff_of_nodup (h.nodup_declaring x),
    h.mem_qualifiedPositions, mem_declaring]
  constructor
  · intro hp
    obtain ⟨j, hj, hx, hname⟩ := (hp p).mpr rfl
    refine ⟨j, fun j' => ⟨fun ⟨hj', hx'⟩ => ?_, ?_⟩, hname⟩
    · -- the column of another table would stand in another place
      have hmem := (h.qualify_mem_iff (h.notMem_qualifier j' hj')).mpr ⟨j', hj', rfl, hx'⟩
      obtain ⟨p', hname'⟩ := List.mem_iff_getElem?.mp hmem
      obtain rfl := (hp p').mp ⟨j', hj', hx', hname'⟩
      have heq := Option.some.inj (hname'.symm.trans hname)
      exact h.eq_of_fst_eq hj' hj
        ((qualify_inj (h.notMem_qualifier j' hj') (h.notMem_qualifier j hj)).mp heq).1
    · rintro rfl
      exact ⟨hj, hx⟩
  · rintro ⟨j, hj, hname⟩ p'
    constructor
    · rintro ⟨j', hj', hx', hname'⟩
      obtain rfl := (hj j').mp ⟨hj', hx'⟩
      exact Option.some.inj ((idxOf?_of_nodup h.nodup_chainColumns hname').symm.trans
        (idxOf?_of_nodup h.nodup_chainColumns hname))
    · rintro rfl
      obtain ⟨hmem, hx⟩ := (hj j).mpr rfl
      exact ⟨j, hmem, hx, hname⟩

/-! ## What a name means -/

theorem position_own (h : QualifiedApart qualifier base joined) {i : ℕ} {x : String}
    (hx : base.schema.columnNames[i]? = some x) :
    position (chainColumns base joined) (qualify qualifier x) = .ok i := by
  rw [position_eq_ok_iff, position?, h.idxOf?_own, unqualified?_qualify h.notMem_own,
    Option.bind_some, h.idxOf?_base hx]

theorem position_base (h : QualifiedApart qualifier base joined) {i : ℕ} {x : String}
    (hx : base.schema.columnNames[i]? = some x) :
    position (chainColumns base joined) x = .ok i := by
  rw [position_eq_ok_iff, position?, h.idxOf?_base hx]

theorem position_joined {before after : List (String × Table)} {j : String × Table}
    (h : QualifiedApart qualifier base (before ++ j :: after)) {i : ℕ} {x : String}
    (hx : j.2.schema.columnNames[i]? = some x) :
    position (chainColumns base (before ++ j :: after)) (qualify j.1 x) =
      .ok ((chainColumns base before).length + i) := by
  rw [position_eq_ok_iff, position?, h.idxOf?_joined hx]

/-- An unqualified name that the first table does not declare is looked for behind the points. -/
theorem position?_of_notMem_base {x : String} (hx : '.' ∉ x.toList)
    (hbase : x ∉ base.schema.columnNames) :
    position? (chainColumns base joined) x =
      match qualifiedPositions (chainColumns base joined) x with
      | [p] => some p
      | _ => none := by
  have hnone : (chainColumns base joined).idxOf? x = none := by
    rwa [List.idxOf?_eq_none_iff, mem_iff_of_notMem hx]
  rw [position?, hnone, unqualified?_eq_none hx]
  rfl

theorem position_of_declaring_eq (h : QualifiedApart qualifier base joined) {x : String}
    (hx : '.' ∉ x.toList) (hbase : x ∉ base.schema.columnNames) {j : String × Table}
    (hj : declaring joined x = [j]) :
    ∃ p, (chainColumns base joined).idxOf? (qualify j.1 x) = some p ∧
      position (chainColumns base joined) x = .ok p := by
  obtain ⟨hmem, hdeclares⟩ := mem_declaring.mp (hj ▸ List.mem_singleton_self j)
  have hname := (h.qualify_mem_iff (h.notMem_qualifier j hmem)).mpr ⟨j, hmem, rfl, hdeclares⟩
  obtain ⟨p, hp⟩ := List.mem_iff_getElem?.mp hname
  refine ⟨p, idxOf?_of_nodup h.nodup_chainColumns hp, ?_⟩
  rw [position_eq_ok_iff, position?_of_notMem_base hx hbase,
    h.qualifiedPositions_eq_singleton_iff.mpr ⟨j, hj, hp⟩]

theorem position_of_declaring_ne (h : QualifiedApart qualifier base joined) {x : String}
    (hx : '.' ∉ x.toList) (hbase : x ∉ base.schema.columnNames)
    (hne : ∀ j, declaring joined x ≠ [j]) :
    position (chainColumns base joined) x = .error (.columnNotFound x) := by
  have hnone : position? (chainColumns base joined) x = none := by
    rw [position?_of_notMem_base hx hbase]
    split
    next p hp =>
      obtain ⟨j, hj, -⟩ := h.qualifiedPositions_eq_singleton_iff.mp hp
      exact absurd hj (hne j)
    next => rfl
  rw [position, hnone]

/-! ## Types -/

theorem columnType?_eq (h : QualifiedApart qualifier base joined) {name own : String} {p : ℕ}
    {type : ColumnType} (hp : position (chainColumns base joined) name = .ok p)
    (hown : (chainColumns base joined)[p]? = some own)
    (htype : (own, type) ∈ chainDeclared base joined) :
    columnType? (.ofList (chainDeclared base joined)) (chainColumns base joined) name =
      some type := by
  have hnodup := h.nodup_chainColumns
  rw [← map_fst_chainDeclared] at hnodup
  rw [columnType?, position_eq_ok_iff.mp hp, Option.bind_some, typeAt?, hown, Option.bind_some]
  refine NameMap.get?_ofList_of_forall htype fun other hother heq => ?_
  exact congrArg Prod.snd (List.inj_on_of_nodup_map hnodup hother htype heq)

theorem columnType?_own (h : QualifiedApart qualifier base joined) {i : ℕ} {column : Column}
    (hcolumn : base.schema.columns[i]? = some column) :
    columnType? (.ofList (chainDeclared base joined)) (chainColumns base joined)
      (qualify qualifier column.name) = some column.type := by
  have hx := getElem?_columnNames hcolumn
  refine h.columnType?_eq (h.position_own hx) (getElem?_base hx) (List.mem_append_left _ ?_)
  exact List.mem_map.mpr ⟨column, List.mem_of_getElem? hcolumn, rfl⟩

theorem columnType?_joined {before after : List (String × Table)} {j : String × Table}
    (h : QualifiedApart qualifier base (before ++ j :: after)) {i : ℕ} {column : Column}
    (hcolumn : j.2.schema.columns[i]? = some column) :
    columnType? (.ofList (chainDeclared base (before ++ j :: after)))
      (chainColumns base (before ++ j :: after)) (qualify j.1 column.name) = some column.type := by
  have hx := getElem?_columnNames hcolumn
  refine h.columnType?_eq (h.position_joined hx) (getElem?_joined hx) (List.mem_append_right _ ?_)
  refine List.mem_flatMap.mpr ⟨j, by simp, List.mem_map.mpr ⟨column, ?_, rfl⟩⟩
  exact List.mem_of_getElem? hcolumn

end QualifiedApart

namespace Plan

variable {c : Catalog}

theorem chainDeclared_append (base : Table) (joined joined' : List (String × Table)) :
    chainDeclared base (joined ++ joined') = chainDeclared base joined ++
      joined'.flatMap fun j => j.2.schema.columns.map fun column =>
        (qualify j.1 column.name, column.type) := by
  simp [chainDeclared]

/-- A joined table with its qualifier. -/
def Joins (c : Catalog) (join : Join) (j : String × Table) : Prop :=
  j.1 = join.rightQualifier ∧ c.find join.table = .ok j.2

theorem Joins.eq {join : Join} {j : String × Table} {t : Table} (h : Joins c join j)
    (ht : c.find join.table = .ok t) : j = (join.rightQualifier, t) :=
  Prod.ext h.1 (Except.ok.inj (h.2.symm.trans ht))

theorem chainDeclared_of_foldlM {base : Table} {joined : List (String × Table)}
    {joins : List Join} {declared : List (String × ColumnType)}
    (h : joins.foldlM (joinedColumns c) (chainDeclared base joined) = .ok declared) :
    ∃ joined', List.Forall₂ (Joins c) joins joined' ∧
      declared = chainDeclared base (joined ++ joined') := by
  induction joins generalizing joined with
  | nil =>
      cases h
      exact ⟨[], .nil, by rw [List.append_nil]⟩
  | cons join joins ih =>
      rw [List.foldlM_cons] at h
      obtain ⟨next, hnext, h⟩ := bind_eq_ok_iff.mp h
      obtain ⟨t, ht, hnext⟩ := bind_eq_ok_iff.mp hnext
      cases hnext
      have hnext : chainDeclared base (joined ++ [(join.rightQualifier, t)]) = _ :=
        chainDeclared_append base joined [(join.rightQualifier, t)]
      rw [List.flatMap_singleton] at hnext
      rw [← hnext] at h
      obtain ⟨joined', hjoined', rfl⟩ := ih h
      refine ⟨(join.rightQualifier, t) :: joined', .cons ⟨rfl, ht⟩ hjoined', ?_⟩
      rw [List.append_assoc, List.singleton_append]

/-- The columns that a query declares are those of its tables. -/
theorem chainDeclared_of_declaredColumns {source : TableReference} {joins : List Join}
    {declared : List (String × ColumnType)}
    (h : declaredColumns c source joins = .ok declared) :
    ∃ base joined, c.find source.name = .ok base ∧ List.Forall₂ (Joins c) joins joined ∧
      declared = chainDeclared base joined := by
  obtain ⟨base, hbase, h⟩ := bind_eq_ok_iff.mp h
  have hdeclared : chainDeclared base [] =
      base.schema.columns.map fun column => (column.name, column.type) := by
    simp [chainDeclared]
  dsimp only at h
  rw [← hdeclared] at h
  obtain ⟨joined, hjoined, rfl⟩ := chainDeclared_of_foldlM h
  exact ⟨base, joined, hbase, hjoined, rfl⟩

theorem map_fst_of_joins {joins : List Join} {joined : List (String × Table)}
    (h : List.Forall₂ (Joins c) joins joined) :
    joined.map (·.1) = joins.map (·.rightQualifier) := by
  induction h with
  | nil => rfl
  | cons hjoin _ ih => rw [List.map_cons, List.map_cons, ih, hjoin.1]

/-- The tables of a query that was read from a text are apart, if its qualifiers are. -/
theorem qualifiedApart_of_parse (statements : List String) {sql : String} {q : Query}
    (hparse : Statement.parse sql = .ok (.select q))
    (hdistinct : (q.source.qualifier :: q.joins.map (·.rightQualifier)).Nodup)
    {base : Table} {joined : List (String × Table)}
    (hbase : (Session.executeAll ∅ statements).2.find q.source.name = .ok base)
    (hjoined : List.Forall₂ (Joins (Session.executeAll ∅ statements).2) q.joins joined) :
    QualifiedApart q.source.qualifier base joined := by
  have hvalid := Catalog.valid_executeAll statements
  have hspellable := Catalog.spellable_executeAll statements
  have hquery : q.WellFormed Value.Unquoted := Statement.wellFormed_of_parse hparse
  have hname : ∀ {x : String}, IsName x → '.' ∉ x.toList := fun h => h.notMem (by decide)
  have hmem : ∀ j ∈ joined, ∃ join ∈ q.joins, Joins _ join j := fun j hj =>
    exists_mem_of_forall₂ hjoined hj
  refine ⟨(hvalid.of_find hbase).consistent.nodup_columnNames, fun x hx => ?_, fun j hj => ?_, ?_,
    fun j hj => ?_, ?_⟩
  · obtain ⟨column, hcolumn, rfl⟩ := List.mem_map.mp hx
    exact hname ((hspellable.of_find hbase).isName_column column hcolumn)
  · obtain ⟨join, -, -, hfind⟩ := hmem j hj
    exact (hvalid.of_find hfind).consistent.nodup_columnNames
  · unfold TableReference.qualifier
    cases hother : q.source.otherName with
    | none => exact hname hquery.source
    | some name => exact hname (hquery.otherName name hother)
  · obtain ⟨join, hjoin, hqualifier, -⟩ := hmem j hj
    rw [hqualifier]
    exact hname (hquery.join join hjoin).rightQualifier
  · rwa [map_fst_of_joins hjoined]

/-- **Qualified names reach their own table.**  On the catalog that a run of statements ends with,
let a query be read whose tables have different qualifiers.  The columns of its joined rows are
those of its tables in order.  The qualified name of a column of the first table is that of no
column, so it means the column without the qualifier; that of a column of a joined table is the
column's own name; and the planner keeps for both the type that the column is declared with.  An
unqualified name means the column of the first table that has it; otherwise that of the joined table
that declares it, if just one does; otherwise none. -/
theorem position_qualified (statements : List String) {sql : String} {q : Query}
    (hparse : Statement.parse sql = .ok (.select q))
    (hdistinct : (q.source.qualifier :: q.joins.map (·.rightQualifier)).Nodup)
    {stage : Plan} {types : ColumnTypes}
    (hstages : sourceStages (Session.executeAll ∅ statements).2 q.source q.joins =
      .ok (stage, types)) :
    ∃ base joined, (Session.executeAll ∅ statements).2.find q.source.name = .ok base ∧
      List.Forall₂ (Joins (Session.executeAll ∅ statements).2) q.joins joined ∧
      (∀ r, (stage.run (Session.executeAll ∅ statements).2).1 = .ok (.rows r) →
        r.columns = chainColumns base joined) ∧
      (∀ (i : ℕ) (column : Column), base.schema.columns[i]? = some column →
        let name := qualify q.source.qualifier column.name
        (chainColumns base joined).idxOf? name = none ∧
          (chainColumns base joined).idxOf? column.name = some i ∧
          position (chainColumns base joined) name = .ok i ∧
          columnType? types (chainColumns base joined) name = some column.type) ∧
      (∀ before j after (i : ℕ) (column : Column), joined = before ++ j :: after →
        j.2.schema.columns[i]? = some column →
        let name := qualify j.1 column.name
        let p := (chainColumns base before).length + i
        (chainColumns base joined).idxOf? name = some p ∧
          position (chainColumns base joined) name = .ok p ∧
          columnType? types (chainColumns base joined) name = some column.type) ∧
      ∀ x : String, '.' ∉ x.toList →
        (∀ i : ℕ, base.schema.columnNames[i]? = some x →
          position (chainColumns base joined) x = .ok i) ∧
        (x ∉ base.schema.columnNames →
          (∀ j, (joined.filter fun j => x ∈ j.2.schema.columnNames) = [j] →
            ∃ p, (chainColumns base joined).idxOf? (qualify j.1 x) = some p ∧
              position (chainColumns base joined) x = .ok p) ∧
          ((∀ j, (joined.filter fun j => x ∈ j.2.schema.columnNames) ≠ [j]) →
            position (chainColumns base joined) x = .error (.columnNotFound x))) := by
  obtain ⟨declared, hdeclared, hdescribes⟩ :=
    describes_sourceStages (Catalog.valid_executeAll statements) hstages
  obtain ⟨base, joined, hbase, hjoined, rfl⟩ := chainDeclared_of_declaredColumns hdeclared
  have hapart := qualifiedApart_of_parse statements hparse hdistinct hbase hjoined
  obtain rfl : types = .ofList (chainDeclared base joined) := hdescribes.types_eq
  refine ⟨base, joined, hbase, hjoined, fun r hr => ?_, fun i column hcolumn => ?_, ?_,
    fun x hx => ⟨fun i hi => hapart.position_base hi, fun hnot => ⟨fun j hj => ?_, ?_⟩⟩⟩
  · rw [(hdescribes.fits r hr).columns_eq, map_fst_chainDeclared]
  · have hname := getElem?_columnNames hcolumn
    exact ⟨hapart.idxOf?_own _, hapart.idxOf?_base hname, hapart.position_own hname,
      hapart.columnType?_own hcolumn⟩
  · rintro before j after i column rfl hcolumn
    have hname := getElem?_columnNames hcolumn
    exact ⟨hapart.idxOf?_joined hname, hapart.position_joined hname,
      hapart.columnType?_joined hcolumn⟩
  · exact hapart.position_of_declaring_eq hx hnot hj
  · exact hapart.position_of_declaring_ne hx hnot

/-- Three tables with a column of one name, of which the last declares it with another type. -/
theorem position_qualified_threeTables :
    let statements := ["CREATE TABLE t (id INT, a TEXT)", "CREATE TABLE u (id INT, b INT)",
      "CREATE TABLE v (id TEXT, b INT, d INT)"]
    let c := (Session.executeAll ∅ statements).2
    let sql := "SELECT * FROM t x JOIN u y ON x.id = y.id LEFT JOIN v ON a = v.id"
    let columns := ["id", "a", "y.id", "y.b", "v.id", "v.b", "v.d"]
    ∃ q, Statement.parse sql = .ok (.select q) ∧
      (q.source.qualifier :: q.joins.map (·.rightQualifier)).Nodup ∧
      ∃ stage types, sourceStages c q.source q.joins = .ok (stage, types) ∧
        (∀ r, (stage.run c).1 = .ok (.rows r) → r.columns = columns) ∧
        position columns "x.id" = .ok 0 ∧ columnType? types columns "x.id" = some .integer ∧
        position columns "v.id" = .ok 4 ∧ columnType? types columns "v.id" = some .text ∧
        position columns "a" = .ok 1 ∧ position columns "d" = .ok 6 ∧
        position columns "b" = .error (.columnNotFound "b") := by
  intro statements c sql columns
  let t : Table := .empty ⟨"t", [⟨"id", .integer⟩, ⟨"a", .text⟩], none⟩
  let u : Table := .empty ⟨"u", [⟨"id", .integer⟩, ⟨"b", .integer⟩], none⟩
  let v : Table := .empty ⟨"v", [⟨"id", .text⟩, ⟨"b", .integer⟩, ⟨"d", .integer⟩], none⟩
  let q : Query :=
    { distinct := false, items := [.star], source := ⟨"t", some "x"⟩
      joins := [⟨"u", .inner, "x.id", "y.id", "x", "y"⟩, ⟨"v", .left, "a", "v.id", "x", "v"⟩]
      filter := none, groupBy := none, having := none, orderBy := none, limit := none
      offset := none }
  let stage : Plan :=
    .join (.join (.scan "t") "u" .inner "x.id" "y.id" "y") "v" .left "a" "v.id" "v"
  let types : ColumnTypes := .ofList (chainDeclared t [("y", u), ("v", v)])
  have hc : c = ⟨.ofList [("t", t), ("u", u), ("v", v)]⟩ := by decide +kernel
  have hparse : Statement.parse sql = .ok (.select q) := by decide +kernel
  have hfind : ∀ table ∈ [t, u, v], c.find table.schema.name = .ok table := by
    rw [hc]
    decide +kernel
  have hstages : sourceStages c q.source q.joins = .ok (stage, types) := by
    rw [hc]
    decide +kernel
  have hcolumns : chainColumns t [("y", u), ("v", v)] = columns := by decide +kernel
  obtain ⟨base, joined, hbase, hjoined, hrun, hown, hjoin, hbare⟩ :=
    position_qualified statements hparse (by decide) hstages
  obtain rfl : t = base := Except.ok.inj ((hfind t (by simp)).symm.trans hbase)
  obtain rfl : [("y", u), ("v", v)] = joined := by
    obtain _ | ⟨hfirst, _ | ⟨hsecond, _ | _⟩⟩ := hjoined
    rw [hfirst.eq (hfind u (by simp)), hsecond.eq (hfind v (by simp))]
  rw [hcolumns] at hrun hown hjoin hbare
  obtain ⟨-, -, hx, hxType⟩ := hown 0 ⟨"id", .integer⟩ rfl
  obtain ⟨-, hv, hvType⟩ := hjoin [("y", u)] ("v", v) [] 0 ⟨"id", .text⟩ rfl rfl
  obtain ⟨ha, -⟩ := hbare "a" (by decide)
  obtain ⟨-, hd⟩ := hbare "d" (by decide)
  obtain ⟨-, hb⟩ := hbare "b" (by decide)
  obtain ⟨p, hp, hd⟩ := (hd (by decide)).1 ("v", v) (by decide +kernel)
  obtain rfl : 6 = p := by
    have hidx : columns.idxOf? (qualify "v" "d") = some 6 := by decide +kernel
    exact Option.some.inj (hidx.symm.trans hp)
  have hboth : ([("y", u), ("v", v)].filter fun j => "b" ∈ j.2.schema.columnNames) =
      [("y", u), ("v", v)] := by decide +kernel
  exact ⟨q, hparse, by decide, stage, types, hstages, hrun, hx, hxType, hv, hvType, ha 1 rfl, hd,
    (hb (by decide)).2 fun j => by simp [hboth]⟩

end Plan

end RelStore
