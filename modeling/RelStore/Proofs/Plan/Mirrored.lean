import Mathlib.Data.List.Perm.Basic
import Mathlib.Data.Multiset.Bind
import RelStore.Proofs.Plan.Joined
import RelStore.Proofs.Session.Matching
import RelStore.Proofs.Value.Ordered

/-!
# Joins seen from the other table

A join goes through the rows of its two sides in very different ways: a row of the relation without
a partner is padded at once, a row of the table only after the last row of the relation.  Up to
order the sides are nevertheless alike.  The rows of a join are

```text
  the matching pairs          rows of both sides beside each other      pairedRows
  + what is kept of the left  rows without a partner, nulls behind      unpartnered, padded
  + what is kept of the right rows without a partner, nulls before      unpartnered, padded
```

(`joinedRows_perm`), and the join of the other side has the same three parts with the two blocks of
columns exchanged: keys match in both directions (`keysMatch_comm`), and what is kept of the left by
one kind of join is kept of the right by the mirrored kind.
-/

namespace RelStore

theorem keysMatch_comm (v w : Value) : keysMatch v w = keysMatch w v := by
  unfold keysMatch
  rw [Value.satisfies_equal_comm v w, Bool.and_comm (!v.isNull)]

/-- The kind of join that keeps of each side what the given kind keeps of the other. -/
def JoinKind.mirror : JoinKind → JoinKind
  | inner => inner
  | left => right
  | right => left
  | full => full

@[simp] theorem JoinKind.keepsLeft_mirror (kind : JoinKind) :
    kind.mirror.keepsLeft = kind.keepsRight := by
  cases kind <;> rfl

@[simp] theorem JoinKind.keepsRight_mirror (kind : JoinKind) :
    kind.mirror.keepsRight = kind.keepsLeft := by
  cases kind <;> rfl

/-- The row with its first `n` values behind the others. -/
def swapBlocks (n : Nat) (row : Row) : Row :=
  row.drop n ++ row.take n

@[simp] theorem swapBlocks_append {n : Nat} {row other : Row} (h : row.length = n) :
    swapBlocks n (row ++ other) = other ++ row := by
  subst h
  simp [swapBlocks]

namespace Relation

open scoped List

/-! ## The rows of a join in three parts -/

/-- The rows that match beside each other, row by row of the first side. -/
def pairedRows (rows others : List Row) (i j : Nat) : List Row :=
  rows.flatMap fun row => (partners others i j row).map (row ++ ·)

/-- The rows of a join of rows of width `m` with rows of width `n`. -/
def joinedRows (rows others : List Row) (m n : Nat) (kind : JoinKind) (i j : Nat) : List Row :=
  rows.flatMap (joinRow others n kind.keepsLeft i j) ++
    if kind.keepsRight then (unpartnered rows others i j).map (nulls m ++ ·) else []

section Parts

variable {rows others : List Row} {m n i j : Nat}

/-- Each element selected yields one element, each other none. -/
theorem flatMap_ite_singleton {α β : Type} (p : α → Bool) (f : α → β) (l : List α) :
    (l.flatMap fun a => if p a then [f a] else []) = (l.filter p).map f := by
  induction l with
  | nil => rfl
  | cons a l ih =>
      rw [List.flatMap_cons, ih]
      by_cases h : p a = true <;> simp [h]

/-- A row without partners is one that no row of the other side is matched by. -/
theorem partners_eq_nil_iff {row : Row} : partners others i j row = [] ↔
    (others.any fun other => keysMatch (cellAt other j) (cellAt row i)) = false := by
  unfold partners
  rw [List.filter_eq_nil_iff, List.any_eq_false]
  simp only [keysMatch_comm (cellAt row i)]

/-- A row yields its pairs, and itself beside nulls if it has none and is kept. -/
theorem joinRow_eq_append (others : List Row) (n : Nat) (keep : Bool) (i j : Nat) (row : Row) :
    joinRow others n keep i j row = (partners others i j row).map (row ++ ·) ++
      if keep && !others.any fun other => keysMatch (cellAt other j) (cellAt row i) then
        [row ++ nulls n] else [] := by
  unfold joinRow
  split
  next hnone =>
    rw [hnone, partners_eq_nil_iff.mp hnone]
    cases keep <;> rfl
  next hsome =>
    have hmatched := mt partners_eq_nil_iff.mpr hsome
    rw [Bool.not_eq_false] at hmatched
    simp [hmatched]

/-- **The rows of a join are the pairs, and of each side that is kept the rows without a partner**,
up to order. -/
theorem joinedRows_perm (rows others : List Row) (m n : Nat) (kind : JoinKind) (i j : Nat) :
    (joinedRows rows others m n kind i j).Perm (pairedRows rows others i j ++
      ((if kind.keepsLeft then (unpartnered others rows j i).map (· ++ nulls n) else []) ++
        if kind.keepsRight then (unpartnered rows others i j).map (nulls m ++ ·) else [])) := by
  have hpadded : (rows.flatMap fun row =>
      if kind.keepsLeft && !others.any fun other => keysMatch (cellAt other j) (cellAt row i) then
        [row ++ nulls n] else []) =
      if kind.keepsLeft then (unpartnered others rows j i).map (· ++ nulls n) else [] := by
    unfold unpartnered
    cases kind.keepsLeft with
    | false => simp
    | true => simp only [Bool.true_and, flatMap_ite_singleton, if_true]
  unfold joinedRows
  rw [← List.append_assoc]
  refine List.Perm.append_right _ ?_
  calc rows.flatMap (joinRow others n kind.keepsLeft i j)
      = rows.flatMap fun row => (partners others i j row).map (row ++ ·) ++
          if kind.keepsLeft && !others.any fun other => keysMatch (cellAt other j) (cellAt row i)
            then [row ++ nulls n] else [] :=
        List.flatMap_congr fun row _ => joinRow_eq_append others n kind.keepsLeft i j row
    _ ~ pairedRows rows others i j ++ _ := (List.flatMap_append_perm rows _ _).symm
    _ = _ := by rw [hpadded]

/-! ## The two sides exchanged -/

/-- The pairs are the same from either side, up to order and to which row of a pair comes first. -/
theorem pairedRows_perm (hothers : ∀ other ∈ others, other.length = n) :
    (pairedRows rows others i j).Perm ((pairedRows others rows j i).map (swapBlocks n)) := by
  let pair (row other : Row) : List Row :=
    if keysMatch (cellAt row i) (cellAt other j) then [row ++ other] else []
  have hpaired : pairedRows rows others i j = rows.flatMap fun row => others.flatMap (pair row) :=
    List.flatMap_congr fun row _ => (flatMap_ite_singleton _ _ _).symm
  have hmirrored : (pairedRows others rows j i).map (swapBlocks n) =
      others.flatMap fun other => rows.flatMap (pair · other) := by
    unfold pairedRows
    rw [List.map_flatMap]
    refine List.flatMap_congr fun other hother => ?_
    have hswap : (partners rows j i other).map (swapBlocks n ∘ (other ++ ·)) =
        (partners rows j i other).map (· ++ other) :=
      List.map_congr_left fun row _ => swapBlocks_append (hothers other hother)
    rw [List.map_map, hswap]
    unfold partners pair
    simp only [keysMatch_comm (cellAt other j), flatMap_ite_singleton]
  rw [hpaired, hmirrored, ← Multiset.coe_eq_coe]
  simpa only [Multiset.coe_bind] using
    Multiset.bind_bind (rows : Multiset Row) (others : Multiset Row)
      (f := fun row other => (pair row other : Multiset Row))

/-- **The rows of a join are those of the mirrored join with the two blocks exchanged**, up to
order. -/
theorem joinedRows_mirror_perm (hothers : ∀ other ∈ others, other.length = n) (kind : JoinKind) :
    (joinedRows rows others m n kind i j).Perm
      ((joinedRows others rows n m kind.mirror j i).map (swapBlocks n)) := by
  -- the padding of each side is put on the other end
  have hleft : (unpartnered others rows j i).map (swapBlocks n ∘ (nulls n ++ ·)) =
      (unpartnered others rows j i).map (· ++ nulls n) :=
    List.map_congr_left fun row _ => swapBlocks_append List.length_replicate
  have hright : (unpartnered rows others i j).map (swapBlocks n ∘ (· ++ nulls m)) =
      (unpartnered rows others i j).map (nulls m ++ ·) :=
    List.map_congr_left fun other hother =>
      swapBlocks_append (hothers other (List.mem_filter.mp hother).1)
  have hpadded :
      ((if kind.keepsRight then (unpartnered rows others i j).map (· ++ nulls m) else []) ++
        if kind.keepsLeft then (unpartnered others rows j i).map (nulls n ++ ·) else []).map
          (swapBlocks n) =
      (if kind.keepsRight then (unpartnered rows others i j).map (nulls m ++ ·) else []) ++
        if kind.keepsLeft then (unpartnered others rows j i).map (· ++ nulls n) else [] := by
    rw [List.map_append, apply_ite (List.map _), apply_ite (List.map _), List.map_map, List.map_map,
      hleft, hright, List.map_nil]
  calc joinedRows rows others m n kind i j
      ~ _ := joinedRows_perm rows others m n kind i j
    _ ~ _ := (pairedRows_perm hothers).append List.perm_append_comm
    _ = _ := by
      rw [← hpadded, ← List.map_append, ← kind.keepsLeft_mirror, ← kind.keepsRight_mirror]
    _ ~ _ := ((joinedRows_perm others rows n m kind.mirror j i).map _).symm

end Parts

end Relation

/-! ## Columns written in a join -/

/-- A column of a table is written by its name, alone or behind a qualifier. -/
def WrittenFor (written column : String) : Prop :=
  written = column ∨ ∃ qualifier, '.' ∉ qualifier.toList ∧ written = qualify qualifier column

namespace WrittenFor

variable {written column : String}

/-- Taking off a qualifier, whichever, leaves a writing of the column. -/
theorem stripQualifier (h : WrittenFor written column) (hname : IsName column)
    (qualifier : String) : WrittenFor (stripQualifier qualifier written) column := by
  have hpoint : '.' ∉ column.toList := hname.notMem (by decide)
  unfold RelStore.stripQualifier
  split
  next rest hrest =>
    rw [List.isPrefixOf?_eq_some_iff_append_eq] at hrest
    rcases h with rfl | ⟨own, hown, rfl⟩
    · -- a name without a point begins with no qualifier
      exact absurd (by simp [← hrest]) hpoint
    · -- the only point is the one behind the column's own qualifier
      have hchars : own.toList ++ '.' :: column.toList = qualifier.toList ++ '.' :: rest := by
        simpa [qualify] using hrest.symm
      obtain ⟨-, -, hrest⟩ := (List.append_cons_inj_of_notMem hown hpoint).mp hchars
      exact .inl (by rw [← hrest, String.ofList_toList])
  next => exact h

section Position

variable {s : Schema} {i : Nat}

/-- However it is written, the column is found where it is declared. -/
theorem position_eq_ok (h : WrittenFor written column)
    (hnames : ∀ column ∈ s.columns, IsName column.name) (hi : s.position? column = some i) :
    position s.columnNames written = .ok i := by
  have hposition : position? s.columnNames written = some i := by
    rcases h with rfl | ⟨own, hown, rfl⟩
    · rw [position?_columnNames hnames (isName_of_position? hnames hi), hi]
    · -- behind a qualifier the name is no column's own, but the part behind the point is one
      have hnone : s.columnNames.idxOf? (qualify own column) = none := by
        rw [List.idxOf?_eq_none_iff]
        intro hmem
        obtain ⟨definition, hdefinition, heq⟩ := List.mem_map.mp hmem
        exact (hnames definition hdefinition).notMem (by decide)
          (heq ▸ point_mem_qualify own column)
      unfold position?
      rw [hnone, unqualified?_qualify hown, Option.bind_some, s.idxOf?_columnNames, hi]
  unfold position
  rw [hposition]

theorem position_stripQualifier (h : WrittenFor written column)
    (hnames : ∀ column ∈ s.columns, IsName column.name) (hi : s.position? column = some i)
    (qualifier : String) :
    position s.columnNames (RelStore.stripQualifier qualifier written) = .ok i :=
  (h.stripQualifier (isName_of_position? hnames hi) qualifier).position_eq_ok hnames hi

end Position

end WrittenFor

/-! ## Two tables -/

namespace Plan

/-- A join of two tables on columns that are found answers the joined rows. -/
theorem run_join_scan {c : Catalog} {first second : String} {t u : Table}
    (ht : c.find first = .ok t) (hu : c.find second = .ok u) (kind : JoinKind)
    {left right qualifier : String} {i j : Nat}
    (hi : position t.schema.columnNames left = .ok i)
    (hj : position u.schema.columnNames (stripQualifier qualifier right) = .ok j) :
    (Plan.join (.scan first) second kind left right qualifier).run c =
      (.ok (.rows ⟨t.schema.columnNames ++ u.schema.columnNames.map (qualify qualifier),
        Relation.joinedRows t.rows u.rows t.schema.columnNames.length
          u.schema.columnNames.length kind i j⟩), c) := by
  have hscan : (Plan.scan first).run c = (.ok (.rows (.ofTable t)), c) := by
    unfold Plan.run
    rw [ht]
    rfl
  show andThen ((Plan.scan first).run c) _ = _
  rw [hscan]
  unfold andThen
  simp only [Outcome.relation, ok_bind, hu, Relation.join_eq, Relation.ofTable, hi, hj]
  rfl

/-- **Mirrored joins agree.**  On the catalog that a run of statements ends with, a join of two
tables and the mirrored join of the second with the first, on the same two columns, both answer, and
with the same rows up to order, once the two blocks of columns are exchanged. -/
theorem run_join_mirror (statements : List String) {first second : String} {t u : Table}
    (ht : (Session.executeAll ∅ statements).2.find first = .ok t)
    (hu : (Session.executeAll ∅ statements).2.find second = .ok u) {a b : String}
    (ha : a ∈ t.schema.columnNames) (hb : b ∈ u.schema.columnNames)
    {left right left' right' : String} (hleft : WrittenFor left a) (hright : WrittenFor right b)
    (hleft' : WrittenFor left' b) (hright' : WrittenFor right' a) (kind : JoinKind)
    (qualifier qualifier' : String) :
    let c := (Session.executeAll ∅ statements).2
    ∃ r r', (Plan.join (.scan first) second kind left right qualifier).run c =
        (.ok (.rows r), c) ∧
      (Plan.join (.scan second) first kind.mirror left' right' qualifier').run c =
        (.ok (.rows r'), c) ∧
      r.columns = t.schema.columnNames ++ u.schema.columnNames.map (qualify qualifier) ∧
      r'.columns = u.schema.columnNames ++ t.schema.columnNames.map (qualify qualifier') ∧
      r.rows.Perm (r'.rows.map (swapBlocks u.schema.columnNames.length)) := by
  intro c
  have hc : c.Valid := Catalog.valid_executeAll statements
  have hs : c.Spellable := Catalog.spellable_executeAll statements
  have htNames := (hs.of_find ht).isName_column
  have huNames := (hs.of_find hu).isName_column
  obtain ⟨i, hi⟩ := Schema.exists_position?_of_mem ha
  obtain ⟨j, hj⟩ := Schema.exists_position?_of_mem hb
  have hforward := run_join_scan ht hu kind (hleft.position_eq_ok htNames hi)
    (hright.position_stripQualifier huNames hj qualifier)
  have hmirrored := run_join_scan hu ht kind.mirror (hleft'.position_eq_ok huNames hj)
    (hright'.position_stripQualifier htNames hi qualifier')
  have hwidth : ∀ row ∈ u.rows, row.length = u.schema.columnNames.length :=
    Relation.shaped_ofTable (hc.of_find hu)
  exact ⟨_, _, hforward, hmirrored, rfl, rfl, Relation.joinedRows_mirror_perm hwidth kind⟩

/-- A right join with a repeated key, a null key and a key without a partner on either side, and the
left join that mirrors it. -/
theorem run_join_mirror_right :
    let statements := ["CREATE TABLE t (a INT, v TEXT)", "CREATE TABLE u (b INT)",
      "INSERT INTO t (a, v) VALUES (1, 'x')", "INSERT INTO t (a, v) VALUES (null, 'y')",
      "INSERT INTO t (a, v) VALUES (1, 'z')", "INSERT INTO u (b) VALUES (null)",
      "INSERT INTO u (b) VALUES (1)", "INSERT INTO u (b) VALUES (7)"]
    let c := (Session.executeAll ∅ statements).2
    ∃ r r', (Plan.join (.scan "t") "u" .right "a" "u.b" "u").run c = (.ok (.rows r), c) ∧
      (Plan.join (.scan "u") "t" .left "u.b" "a" "t").run c = (.ok (.rows r'), c) ∧
      r.rows = [[.integer 1, .text "x", .integer 1], [.integer 1, .text "z", .integer 1],
        [.null, .null, .null], [.null, .null, .integer 7]] ∧
      r'.rows = [[.null, .null, .null], [.integer 1, .integer 1, .text "x"],
        [.integer 1, .integer 1, .text "z"], [.integer 7, .null, .null]] ∧
      r.rows.Perm (r'.rows.map (swapBlocks 1)) := by
  intro statements c
  let t : Table := ⟨⟨"t", [⟨"a", .integer⟩, ⟨"v", .text⟩], none⟩,
    [[.integer 1, .text "x"], [.null, .text "y"], [.integer 1, .text "z"]]⟩
  let u : Table := ⟨⟨"u", [⟨"b", .integer⟩], none⟩, [[.null], [.integer 1], [.integer 7]]⟩
  have hc : c = ⟨.ofList [("t", t), ("u", u)]⟩ := by decide +kernel
  have ht : c.find "t" = .ok t := by
    rw [hc]
    decide +kernel
  have hu : c.find "u" = .ok u := by
    rw [hc]
    decide +kernel
  have hqualified : WrittenFor "u.b" "b" := .inr ⟨"u", by decide, rfl⟩
  obtain ⟨r, r', hforward, hmirrored, -, -, hperm⟩ := run_join_mirror statements ht hu
    (a := "a") (b := "b") (by decide) (by decide) (.inl rfl) hqualified hqualified (.inl rfl)
    .right "u" "t"
  have hrows := hforward.symm.trans
    (run_join_scan ht hu .right (i := 0) (j := 0) (by decide +kernel) (by decide +kernel))
  have hrows' := hmirrored.symm.trans
    (run_join_scan hu ht .left (i := 0) (j := 0) (by decide +kernel) (by decide +kernel))
  cases hrows
  cases hrows'
  exact ⟨_, _, hforward, hmirrored, by decide +kernel, by decide +kernel, hperm⟩

end Plan

end RelStore
