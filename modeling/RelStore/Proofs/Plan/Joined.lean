import RelStore.Proofs.Relation.Shape
import RelStore.Proofs.Session.Reachable

/-!
# What a join answers

A join of a relation with a stored table answers, for each row of the relation in order, the row
beside each of its partners in the order of the table, and behind these the rows of the table that
are left over, if the kind of join keeps them.  A row is a partner if its key is the same and not a
null.  Keys of one stored type are compared as they are; only a double, which no table stores, may
also equal an integer by its value (`keysMatch_iff`).

The kinds of join that keep a side lose no row of it, with or without partners
(`exists_mem_joinRow`, `exists_mem_unpartnered`).
-/

namespace RelStore

/-! ## Keys -/

theorem keysMatch_eq_true_iff {v w : Value} :
    keysMatch v w = true ↔ v ≠ .null ∧ w ≠ .null ∧ v.satisfies .equal w = true := by
  simp [keysMatch, and_assoc]

/-- A stored key that is matched is no null, and is the other key or the integer that the other key
denotes as a double. -/
theorem keysMatch_iff {type : ColumnType} {v w : Value} (hw : type.Holds w) :
    keysMatch v w = true ↔ w ≠ .null ∧ (v = w ∨ ∃ x n, v = .float x ∧ w = .integer n ∧
      x.compare? (.ofInt n.toInt) = some .eq) := by
  have hequal : ∀ o? : Option Ordering,
      (o?.map Comparison.equal.holds).getD false = true ↔ o? = some .eq := by
    rintro (_ | _ | _ | _) <;> simp [Comparison.holds]
  rw [keysMatch_eq_true_iff]
  cases type <;> cases v <;> cases w <;>
    simp_all [ColumnType.Holds, Value.satisfies, Value.compare?, Comparison.holds, Int64.toInt_inj]

namespace Relation

/-! ## Rows that are kept -/

section Kept

variable {others rows : List Row} {width i j : Nat} {row other : Row}

/-- A row that is kept stands beside a row of the table or nulls. -/
theorem exists_mem_joinRow (others : List Row) (width i j : Nat) (row : Row) :
    ∃ other, (other ∈ others ∨ other = nulls width) ∧
      row ++ other ∈ joinRow others width true i j row := by
  unfold joinRow
  split
  next => exact ⟨nulls width, .inr rfl, by simp⟩
  next hne =>
    obtain ⟨other, hother⟩ := List.exists_mem_of_ne_nil _ hne
    exact ⟨other, .inl (List.mem_filter.mp hother).1, List.mem_map_of_mem hother⟩

/-- A row of the table stands beside a row that it is a partner of, or is left over. -/
theorem exists_mem_unpartnered (keep : Bool) (width : Nat) (hother : other ∈ others) :
    (∃ row ∈ rows, row ++ other ∈ joinRow others width keep i j row) ∨
      other ∈ unpartnered rows others i j := by
  by_cases hmatch : ∃ row ∈ rows, keysMatch (cellAt row i) (cellAt other j) = true
  · obtain ⟨row, hrow, hkeys⟩ := hmatch
    have hpartner : other ∈ partners others i j row := List.mem_filter.mpr ⟨hother, hkeys⟩
    refine .inl ⟨row, hrow, ?_⟩
    unfold joinRow
    split
    next hnone =>
      rw [hnone] at hpartner
      contradiction
    next => exact List.mem_map_of_mem hpartner
  · refine .inr (List.mem_filter.mpr ⟨hother, ?_⟩)
    simpa using hmatch

end Kept

/-- **A join of a stored table** answers the rows that each row of the relation yields and then
what is left of the table, and reads no row beyond its end.  A kind of join that keeps a side has
all rows of it in its answer, and keys match as their values are equal, nulls never. -/
theorem join_of_executeAll {statements : List String} {table : String} {t : Table}
    (ht : (Session.executeAll ∅ statements).2.find table = .ok t) {r : Relation} (hr : r.Shaped)
    (kind : JoinKind) {left right qualifier : String} {i j : Nat}
    (hi : position r.columns left = .ok i)
    (hj : position t.schema.columnNames (stripQualifier qualifier right) = .ok j) :
    ∃ joined, r.join t kind left right qualifier = .ok joined ∧
      r.checkedJoin t kind left right qualifier = .ok joined ∧
      joined.columns = r.columns ++ t.schema.columnNames.map (qualify qualifier) ∧
      joined.rows =
        r.rows.flatMap (joinRow t.rows t.schema.columnNames.length kind.keepsLeft i j) ++
          (if kind.keepsRight then
            (unpartnered r.rows t.rows i j).map (nulls r.columns.length ++ ·)
          else []) ∧
      (kind = .left ∨ kind = .full → ∀ row ∈ r.rows, ∃ other,
        (other ∈ t.rows ∨ other = nulls t.schema.columnNames.length) ∧
          row ++ other ∈ joined.rows) ∧
      (kind = .right ∨ kind = .full → ∀ other ∈ t.rows, ∃ row,
        (row ∈ r.rows ∨ row = nulls r.columns.length) ∧ row ++ other ∈ joined.rows) ∧
      ∀ row ∈ r.rows, ∀ other ∈ t.rows,
        (keysMatch (cellAt row i) (cellAt other j) = true ↔
          cellAt other j ≠ .null ∧ (cellAt row i = cellAt other j ∨
            ∃ x n, cellAt row i = .float x ∧ cellAt other j = .integer n ∧
              x.compare? (.ofInt n.toInt) = some .eq)) := by
  have htable : t.Valid := (Catalog.valid_executeAll statements).of_find ht
  let joined : Relation :=
    ⟨r.columns ++ t.schema.columnNames.map (qualify qualifier),
      r.rows.flatMap (joinRow t.rows t.schema.columnNames.length kind.keepsLeft i j) ++
        if kind.keepsRight then (unpartnered r.rows t.rows i j).map (nulls r.columns.length ++ ·)
        else []⟩
  have hjoin : r.join t kind left right qualifier = .ok joined := by
    rw [join_eq, hi, ok_bind, hj]
    rfl
  have hchecked : r.checkedJoin t kind left right qualifier = .ok joined := by
    rw [checkedJoin_eq hr (shaped_ofTable htable), hjoin]
    rfl
  refine ⟨joined, hjoin, hchecked, rfl, rfl, ?sourceKept, ?tableKept, ?keys⟩
  case sourceKept =>
    intro hkind row hrow
    have hkeeps : kind.keepsLeft = true := by rcases hkind with rfl | rfl <;> rfl
    obtain ⟨other, hother, hmem⟩ :=
      exists_mem_joinRow t.rows t.schema.columnNames.length i j row
    rw [← hkeeps] at hmem
    exact ⟨other, hother, List.mem_append_left _ (List.mem_flatMap.mpr ⟨row, hrow, hmem⟩)⟩
  case tableKept =>
    intro hkind other hother
    have hkeeps : kind.keepsRight = true := by rcases hkind with rfl | rfl <;> rfl
    rcases exists_mem_unpartnered kind.keepsLeft t.schema.columnNames.length hother with
      ⟨row, hrow, hmem⟩ | hleft
    · exact ⟨row, .inl hrow, List.mem_append_left _ (List.mem_flatMap.mpr ⟨row, hrow, hmem⟩)⟩
    · refine ⟨nulls r.columns.length, .inr rfl, List.mem_append_right _ ?_⟩
      rw [if_pos hkeeps]
      exact List.mem_map_of_mem hleft
  case keys =>
    intro row hrow other hother
    have hlt : j < t.schema.columns.length := by
      simpa [Schema.columnNames] using lt_length_of_position_eq_ok hj
    exact keysMatch_iff ((htable.admits other hother).holds_cellAt (List.getElem?_eq_getElem hlt))

/-- A full join with a repeated key, keys that no row matches, nulls on both sides, and a key that
is a double. -/
theorem join_of_executeAll_full :
    let statements := ["CREATE TABLE t (k INT, v TEXT)", "INSERT INTO t (k, v) VALUES (1, 'a')",
      "INSERT INTO t (k, v) VALUES (null, 'b')", "INSERT INTO t (k, v) VALUES (1, 'c')",
      "INSERT INTO t (k, v) VALUES (7, 'd')"]
    let r : Relation := ⟨["id"], [[.float (.ofInt 1)], [.null], [.text "1"]]⟩
    ∃ t, (Session.executeAll ∅ statements).2.find "t" = .ok t ∧ r.Shaped ∧ ∃ joined : Relation,
      r.join t .full "id" "u.k" "u" = .ok joined ∧ joined.columns = ["id", "u.k", "u.v"] ∧
      joined.rows =
        [[.float (.ofInt 1), .integer 1, .text "a"], [.float (.ofInt 1), .integer 1, .text "c"],
          [.null, .null, .null], [.text "1", .null, .null],
          [.null, .null, .text "b"], [.null, .integer 7, .text "d"]] := by
  intro statements r
  let t : Table := ⟨⟨"t", [⟨"k", .integer⟩, ⟨"v", .text⟩], none⟩,
    [[.integer 1, .text "a"], [.null, .text "b"], [.integer 1, .text "c"],
      [.integer 7, .text "d"]]⟩
  have ht : (Session.executeAll ∅ statements).2.find "t" = .ok t := by decide +kernel
  have hr : r.Shaped := by simp [r, Shaped]
  have hi : position r.columns "id" = .ok 0 := by decide +kernel
  have hj : position t.schema.columnNames (stripQualifier "u" "u.k") = .ok 0 := by decide +kernel
  obtain ⟨joined, hjoin, -, hcolumns, hrows, -⟩ := join_of_executeAll ht hr .full hi hj
  refine ⟨t, ht, hr, joined, hjoin, hcolumns, ?_⟩
  rw [hrows]
  decide +kernel

end Relation

end RelStore
