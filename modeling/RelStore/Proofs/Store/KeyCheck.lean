import RelStore.Proofs.Occurrence
import RelStore.Proofs.Store.Rebuild

/-!
# Two checks of keys

The keys of a table are checked in two ways.  An insertion compares the new key with those of the
rows before it, in the sense of conditions; an update goes through all rows that it would leave, and
remembers the keys that it has seen.

| check | looks at | among | as equal |
| --- | --- | --- | --- |
| `checkNewKey` | the key of a new row | the rows of the table | in conditions |
| `checkKeys` | the key of each row | the keys before it | in structure |

Rows that are inserted one after another are checked each among those before it, so the first kind
of check, made again and again, comes to the second (`Table.insertRows_eq`).
-/

namespace RelStore

namespace Table

variable {t : Table} {key : String} {i : Nat} {row : Row} {rows : List Row}

/-- The table with the rows inserted one after another. -/
def insertRows (t : Table) (rows : List Row) : Except Error Table :=
  rows.foldlM (fun t row => t.insert t.schema.columnNames row) t

/-- **One row is inserted if its key is none of the keys of the table.** -/
theorem insert_row (hnodup : t.schema.columnNames.Nodup)
    (hkey : t.schema.keyColumn? = some (key, i)) (hrows : ∀ old ∈ t.rows, t.schema.Admits old)
    (hrow : t.schema.Admits row) :
    t.insert t.schema.columnNames row =
      if cellAt row i ∈ keysAt i t.rows then .error (.duplicateKey key (cellAt row i))
      else .ok { t with rows := t.rows ++ [row] } := by
  have hinsert := @insert_map id ColumnType.cast_of_holds t hnodup row hrow
  rw [List.map_id] at hinsert
  rw [hinsert, checkNewKey_eq hkey hrows hrow]
  split <;> rfl

/-- **Rows are inserted one after another if no key of theirs is a repetition.** -/
theorem insertRows_eq (hnodup : t.schema.columnNames.Nodup)
    (hkey : t.schema.keyColumn? = some (key, i)) (hold : ∀ row ∈ t.rows, t.schema.Admits row)
    (hrows : ∀ row ∈ rows, t.schema.Admits row) :
    t.insertRows rows =
      match firstRepeatAmong? (keysAt i t.rows) (keysAt i rows) with
      | some v => .error (.duplicateKey key v)
      | none => .ok { t with rows := t.rows ++ rows } := by
  induction rows generalizing t with
  | nil => simp [insertRows, keysAt, firstRepeatAmong?, pure, Except.pure]
  | cons row rows ih =>
      obtain ⟨hrow, hrest⟩ := List.forall_mem_cons.mp hrows
      have hold' : ∀ old ∈ t.rows ++ [row], t.schema.Admits old := by
        simpa [or_imp, forall_and] using ⟨hold, hrow⟩
      have hnext := ih (t := { t with rows := t.rows ++ [row] }) hnodup hkey hold' hrest
      have hkeys : keysAt i (row :: rows) = keysAt i [row] ++ keysAt i rows :=
        keysAt_append i [row] rows
      show (t.insert t.schema.columnNames row >>= (·.insertRows rows)) = _
      rw [insert_row hnodup hkey hold hrow]
      by_cases hnull : cellAt row i = .null
      · -- a null is no key, so nothing more has been seen
        have hnone : keysAt i [row] = [] := keysAt_singleton.trans (if_pos hnull)
        have hnew : cellAt row i ∉ keysAt i t.rows := fun h => (mem_keysAt.mp h).2 hnull
        rw [if_neg hnew, ok_bind, hnext, hkeys, keysAt_append, hnone]
        simp
      · have hone : keysAt i [row] = [cellAt row i] := keysAt_singleton.trans (if_neg hnull)
        rw [hkeys, hone]
        by_cases hmem : cellAt row i ∈ keysAt i t.rows
        · simp [firstRepeatAmong?, hmem]
        · have hseen : ∀ v, v ∈ keysAt i (t.rows ++ [row]) ↔
              v ∈ cellAt row i :: keysAt i t.rows := by
            simp [keysAt_append, hone, or_comm]
          rw [if_neg hmem, ok_bind, hnext, firstRepeatAmong?_congr hseen]
          simp [firstRepeatAmong?, hmem]

/-- **Into a table without rows, rows are inserted as the check of all their keys has it.** -/
theorem insertRows_empty {s : Schema} (hnodup : s.columnNames.Nodup)
    (hkey : s.keyColumn? = some (key, i)) (hrows : ∀ row ∈ rows, s.Admits row) :
    (Table.empty s).insertRows rows = (checkKeys key i rows).map fun _ => ⟨s, rows⟩ := by
  have hrun := insertRows_eq (t := Table.empty s) hnodup hkey (fun _ h => absurd h List.not_mem_nil)
    hrows
  rw [hrun]
  unfold checkKeys
  rw [← keysAt]
  show (match firstRepeat? (keysAt i rows) with | some v => _ | none => _) = _
  cases firstRepeat? (keysAt i rows) <;> rfl

/-- **The two checks of keys agree.**  Let a consistent schema have a primary key, and let rows have
values that their columns may hold, nulls among them.  The check of all rows accepts them exactly if
they can be inserted one after another into the table without rows.  If it refuses them, it
reports the column and the value that the first insertion to fail reports. -/
theorem checkKeys_iff_insertRows {s : Schema} (hs : s.Consistent) (hkey : s.primaryKey = some key)
    (hrows : ∀ row ∈ rows, s.Admits row) :
    ∃ i, s.keyColumn? = some (key, i) ∧
      (checkKeys key i rows = .ok () ↔ ∃ t, (Table.empty s).insertRows rows = .ok t) ∧
      ∀ e, checkKeys key i rows = .error e ↔ ∃ before row after, rows = before ++ row :: after ∧
        (Table.empty s).insertRows before = .ok ⟨s, before⟩ ∧
        (⟨s, before⟩ : Table).insert s.columnNames row = .error e ∧
        e = .duplicateKey key (cellAt row i) := by
  obtain ⟨i, hi⟩ := Schema.exists_position?_of_mem (hs.key_mem key hkey)
  have hcolumn := Schema.keyColumn?_eq_some_iff.mpr ⟨hkey, hi⟩
  have hnodup := hs.nodup_columnNames
  refine ⟨i, hcolumn, ?_, fun e => ?_⟩
  · rw [insertRows_empty hnodup hcolumn hrows]
    cases checkKeys key i rows <;> simp [Except.map]
  · have hfails : checkKeys key i rows = .error e ↔ (Table.empty s).insertRows rows = .error e := by
      rw [insertRows_empty hnodup hcolumn hrows, map_eq_error_iff]
    rw [hfails]
    unfold insertRows
    rw [foldlM_eq_error_iff]
    constructor
    · rintro ⟨before, row, after, t, rfl, hbefore, hinsert⟩
      have hadmits : ∀ old ∈ before, s.Admits old := fun old hold =>
        hrows old (List.mem_append_left _ hold)
      obtain ⟨_, -, rfl⟩ :=
        map_eq_ok_iff.mp ((insertRows_empty hnodup hcolumn hadmits).symm.trans hbefore)
      have hrow := insert_row (t := ⟨s, before⟩) hnodup hcolumn hadmits (hrows row (by simp))
      refine ⟨before, row, after, rfl, hbefore, hinsert, ?_⟩
      rw [hinsert] at hrow
      split at hrow
      · exact Except.error.inj hrow
      · contradiction
    · rintro ⟨before, row, after, hsplit, hbefore, hinsert, -⟩
      exact ⟨before, row, after, ⟨s, before⟩, hsplit, hbefore, hinsert⟩

/-- Texts as keys, with two nulls before the first text that is a repetition. -/
theorem checkKeys_iff_insertRows_repeatedText :
    let s : Schema := ⟨"t", [⟨"v", .boolean⟩, ⟨"k", .text⟩], some "k"⟩
    let before : List Row := [[.null, .text "a"], [.boolean true, .null], [.null, .text "b"],
      [.null, .null]]
    let row : Row := [.boolean true, .text "b"]
    let rows := before ++ row :: [[.null, .text "a"]]
    (Table.empty s).insertRows before = .ok ⟨s, before⟩ ∧
      (⟨s, before⟩ : Table).insert s.columnNames row = .error (.duplicateKey "k" (.text "b")) ∧
      checkKeys "k" 1 rows = .error (.duplicateKey "k" (.text "b")) ∧
      ¬ ∃ t, (Table.empty s).insertRows rows = .ok t := by
  intro s before row rows
  have hs : s.Consistent := Schema.validate_eq_ok_iff.mp (by decide)
  have hrows : ∀ row ∈ rows, s.Admits row := by
    simp [rows, row, before, s, Schema.Admits, ColumnType.Holds]
  have hbefore : (Table.empty s).insertRows before = .ok ⟨s, before⟩ := by decide +kernel
  have hinsert : (⟨s, before⟩ : Table).insert s.columnNames row =
      .error (.duplicateKey "k" (.text "b")) := by decide +kernel
  obtain ⟨i, hi, haccepts, hrefuses⟩ := checkKeys_iff_insertRows hs rfl hrows
  obtain rfl : 1 = i := congrArg Prod.snd (Option.some.inj hi)
  have hrefused : checkKeys "k" 1 rows = .error (.duplicateKey "k" (.text "b")) :=
    (hrefuses _).mpr ⟨before, row, _, rfl, hbefore, hinsert, rfl⟩
  refine ⟨hbefore, hinsert, hrefused, fun hinserted => ?_⟩
  cases hrefused.symm.trans (haccepts.mpr hinserted)

end Table

end RelStore
