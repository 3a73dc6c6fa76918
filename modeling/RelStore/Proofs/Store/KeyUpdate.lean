import RelStore.Proofs.NameMap
import RelStore.Proofs.Store.Failure
import RelStore.Proofs.Store.Valid

/-!
# When an update of the key succeeds

An update that assigns the key gives one value to every row it selects, and then looks for a key
that occurs twice in the whole table.  In a valid table no key did before, so one does now just if
the value assigned does (`Table.KeyClash`): it is no null, and more than one row is selected, or one
is and another row has the key already.

## Strategy

How often a value occurs as a key is how many rows have it (`count_keysAt`), and rows are counted
apart by whether they are selected (`countP_updatedRows`):

* of the rows selected, all have the value assigned and none has another;
* of the others, at most one has any given key, as before the update.

So only the value assigned can occur twice, and it is the one that the error names.
-/

namespace RelStore

/-! ## Counting keys -/

/-- A value is a key as often as a row has it. -/
theorem count_keysAt {v : Value} (hv : v ≠ .null) (i : Nat) (rows : List Row) :
    (keysAt i rows).count v = rows.countP (cellAt · i == v) := by
  unfold keysAt
  rw [List.count_filter (by simpa using hv), List.count_eq_countP, List.countP_map]
  rfl

theorem keysAt_nodup_iff {i : Nat} {rows : List Row} :
    (keysAt i rows).Nodup ↔ ∀ v, v ≠ .null → rows.countP (cellAt · i == v) ≤ 1 := by
  rw [List.nodup_iff_count_le_one]
  constructor
  · intro h v hv
    rw [← count_keysAt hv]
    exact h v
  · intro h v
    by_cases hv : v = .null
    · have hnotMem : v ∉ keysAt i rows := fun hmem => (mem_keysAt.mp hmem).2 hv
      rw [List.count_eq_zero.mpr hnotMem]
      omega
    · rw [count_keysAt hv]
      exact h v hv

/-- Of the rows after an update, those selected have the value assigned and the others what they
had. -/
theorem countP_updatedRows {bound : List (Nat × Value)} {test : Option (Nat × Value)} {i : Nat}
    {w : Value} {rows : List Row} (h : ∀ row ∈ rows, cellAt (assignCells bound row) i = w)
    (v : Value) :
    (Table.updatedRows bound test rows).countP (cellAt · i == v) =
      (if w = v then rows.countP (fun row => test.all (matchesAt · row)) else 0) +
        rows.countP (fun row => !test.all (matchesAt · row) && cellAt row i == v) := by
  induction rows with
  | nil => simp [Table.updatedRows]
  | cons row rows ih =>
      obtain ⟨hrow, hrows⟩ := List.forall_mem_cons.mp h
      have hrest := ih hrows
      unfold Table.updatedRows at hrest ⊢
      rw [List.map_cons, List.countP_cons, List.countP_cons, List.countP_cons, hrest]
      by_cases hselected : test.all (matchesAt · row) = true
      · by_cases hw : w = v
        · simp [hselected, hrow, hw]
          omega
        · simp [hselected, hrow, hw]
      · simp [hselected]
        omega

/-! ## Values bound to columns -/

namespace Table

variable {t : Table} {assignments : NameMap Value} {test : Option EqualityTest}
  {bound : List (Nat × Value)} {boundTest : Option (Nat × Value)} {key : String} {i : Nat}
  {type : ColumnType} {v w : Value}

/-- The column of every assignment is declared and its value casts. -/
def Assigns (t : Table) (assignments : NameMap Value) : Prop :=
  ∀ name v, assignments.get? name = some v →
    ∃ i type w, t.schema.locate name = .ok (i, type) ∧ type.cast v = .ok w

theorem Assigns.exists_bindAssignments (h : t.Assigns assignments) :
    ∃ bound, t.bindAssignments assignments = .ok bound := by
  cases hbound : t.bindAssignments assignments with
  | ok bound => exact ⟨bound, rfl⟩
  | error e =>
      -- the assignment that failed is one that is declared and casts
      obtain ⟨⟨name, v⟩, hentry, herror⟩ := exists_mem_of_mapM_eq_error hbound
      obtain ⟨i, type, w, hlocate, hcast⟩ := h name v (NameMap.get?_eq_some_iff.mpr hentry)
      simp only [hlocate, ok_bind, hcast] at herror
      contradiction

theorem assigns_of_bindAssignments (h : t.bindAssignments assignments = .ok bound) :
    t.Assigns assignments := by
  intro name v hvalue
  obtain ⟨_, -, hbind⟩ :=
    exists_mem_of_forall₂ (mapM_eq_ok_iff.mp h).flip (NameMap.get?_eq_some_iff.mp hvalue)
  obtain ⟨⟨i, type⟩, hlocate, hbind⟩ := bind_eq_ok_iff.mp hbind
  obtain ⟨w, hcast, -⟩ := bind_eq_ok_iff.mp hbind
  exact ⟨i, type, w, hlocate, hcast⟩

/-- Bound is each value, cast, to the position of its column. -/
theorem mem_bound_iff (h : t.bindAssignments assignments = .ok bound) :
    (i, w) ∈ bound ↔ ∃ name type v, assignments.get? name = some v ∧
      t.schema.locate name = .ok (i, type) ∧ type.cast v = .ok w := by
  have hall := mapM_eq_ok_iff.mp h
  constructor
  · intro hmem
    obtain ⟨⟨name, v⟩, hentry, hbind⟩ := exists_mem_of_forall₂ hall hmem
    obtain ⟨⟨j, type⟩, hlocate, hbind⟩ := bind_eq_ok_iff.mp hbind
    obtain ⟨u, hcast, hbind⟩ := bind_eq_ok_iff.mp hbind
    cases hbind
    exact ⟨name, type, v, NameMap.get?_eq_some_iff.mpr hentry, hlocate, hcast⟩
  · rintro ⟨name, type, v, hvalue, hlocate, hcast⟩
    obtain ⟨assignment, hmem, hbind⟩ :=
      exists_mem_of_forall₂ hall.flip (NameMap.get?_eq_some_iff.mp hvalue)
    simp only [hlocate, ok_bind, hcast] at hbind
    cases hbind
    exact hmem

/-- The position of a column is assigned just if the column is. -/
theorem any_bound_iff (h : t.bindAssignments assignments = .ok bound)
    (hposition : t.schema.position? key = some i) :
    bound.any (·.1 == i) = true ↔ ∃ v, assignments.get? key = some v := by
  obtain ⟨column, -, -, hlocate⟩ := Schema.exists_locate_of_position? hposition
  rw [List.any_eq_true]
  constructor
  · rintro ⟨⟨j, w⟩, hmem, hj⟩
    obtain rfl : j = i := by simpa using hj
    obtain ⟨name, type', v, hvalue, hlocate', -⟩ := (mem_bound_iff h).mp hmem
    exact ⟨v, Schema.eq_of_locate hlocate' hlocate ▸ hvalue⟩
  · rintro ⟨v, hvalue⟩
    obtain ⟨j, type', w, hlocate', hcast⟩ := assigns_of_bindAssignments h key v hvalue
    cases hlocate'.symm.trans hlocate
    exact ⟨(i, w), (mem_bound_iff h).mpr ⟨key, _, v, hvalue, hlocate', hcast⟩, by simp⟩

/-- A row that is assigned has at a column's position the cast of the value assigned to it. -/
theorem Valid.cellAt_assignCells (ht : t.Valid) (h : t.bindAssignments assignments = .ok bound)
    (hlocate : t.schema.locate key = .ok (i, type)) (hvalue : assignments.get? key = some v)
    (hcast : type.cast v = .ok w) {row : Row} (hrow : row ∈ t.rows) :
    cellAt (assignCells bound row) i = w := by
  obtain ⟨column, hcolumn, -, -⟩ := Schema.locate_eq_ok hlocate
  have hlength : i < row.length := by
    rw [(ht.admits row hrow).length_eq]
    exact (List.getElem?_eq_some_iff.mp hcolumn).1
  refine cellAt_assignCells_of_mem ((mem_bound_iff h).mpr ⟨key, type, v, hvalue, hlocate, hcast⟩)
    ?_ hlength
  rintro ⟨j, u⟩ hmem rfl
  obtain ⟨name, type', v', hvalue', hlocate', hcast'⟩ := (mem_bound_iff h).mp hmem
  obtain rfl := Schema.eq_of_locate hlocate' hlocate
  cases hlocate'.symm.trans hlocate
  cases hvalue'.symm.trans hvalue
  exact Except.ok.inj (hcast'.symm.trans hcast)

/-! ## Keys that occur twice -/

/-- The value is no null, and if the rows that pass the test get it as their key, it is the key of
two rows. -/
def KeyClash (t : Table) (i : Nat) (w : Value) (test : Option (Nat × Value)) : Prop :=
  w ≠ .null ∧
    (2 ≤ t.rows.countP (fun row => test.all (matchesAt · row)) ∨
      t.rows.countP (fun row => test.all (matchesAt · row)) = 1 ∧
        ∃ row ∈ t.rows, test.all (matchesAt · row) = false ∧ cellAt row i = w)

instance (t : Table) (i : Nat) (w : Value) (test : Option (Nat × Value)) :
    Decidable (t.KeyClash i w test) :=
  inferInstanceAs (Decidable (_ ∧ (_ ∨ _ ∧ ∃ row ∈ t.rows, _ ∧ _)))

/-- Of the rows left alone at most one has any given key. -/
theorem Valid.countP_unselected_le (ht : t.Valid) (hkey : t.schema.keyColumn? = some (key, i))
    (hv : v ≠ .null) (selected : Row → Bool) :
    t.rows.countP (fun row => !selected row && cellAt row i == v) ≤ 1 :=
  calc
    t.rows.countP (fun row => !selected row && cellAt row i == v)
    _ ≤ t.rows.countP (cellAt · i == v) :=
      List.countP_mono_left fun _ _ h => (Bool.and_eq_true_iff.mp h).2
    _ ≤ 1 := keysAt_nodup_iff.mp (ht.keys_nodup key i hkey) v hv

/-- **A key occurs twice after an update of the key just if the value assigned does.** -/
theorem Valid.keysAt_updatedRows_nodup_iff (ht : t.Valid)
    (hkey : t.schema.keyColumn? = some (key, i))
    (hassigned : ∀ row ∈ t.rows, cellAt (assignCells bound row) i = w) :
    (keysAt i (updatedRows bound boundTest t.rows)).Nodup ↔ ¬ t.KeyClash i w boundTest := by
  rw [keysAt_nodup_iff]
  constructor
  · rintro h ⟨hnotNull, hclash⟩
    have hcount := h w hnotNull
    rw [countP_updatedRows hassigned, if_pos rfl] at hcount
    rcases hclash with htwo | ⟨hone, row, hrow, hunselected, hcell⟩
    · omega
    · have hholder : 0 < t.rows.countP
          (fun row => !boundTest.all (matchesAt · row) && cellAt row i == w) :=
        List.countP_pos_iff.mpr ⟨row, hrow, by simp [hunselected, hcell]⟩
      omega
  · intro h v hv
    have hothers := ht.countP_unselected_le hkey hv fun row => boundTest.all (matchesAt · row)
    rw [countP_updatedRows hassigned]
    by_cases hw : w = v
    · subst hw
      rw [if_pos rfl]
      by_contra hcount
      refine h ⟨hv, ?_⟩
      by_cases htwo : 2 ≤ t.rows.countP fun row => boundTest.all (matchesAt · row)
      · exact .inl htwo
      · -- one row is selected, and another has the value
        have hholder : 0 < t.rows.countP
            (fun row => !boundTest.all (matchesAt · row) && cellAt row i == w) := by omega
        obtain ⟨row, hrow, hheld⟩ := List.countP_pos_iff.mp hholder
        exact .inr ⟨by omega, row, hrow, by simpa using hheld⟩
    · rw [if_neg hw]
      omega

/-- No other key than the value assigned occurs twice. -/
theorem Valid.eq_of_two_le_count (ht : t.Valid) (hkey : t.schema.keyColumn? = some (key, i))
    (hassigned : ∀ row ∈ t.rows, cellAt (assignCells bound row) i = w)
    (h : 2 ≤ (keysAt i (updatedRows bound boundTest t.rows)).count v) : v = w := by
  have hmem : v ∈ keysAt i (updatedRows bound boundTest t.rows) :=
    List.count_pos_iff.mp (by omega)
  have hv : v ≠ .null := (mem_keysAt.mp hmem).2
  have hothers := ht.countP_unselected_le hkey hv fun row => boundTest.all (matchesAt · row)
  rw [count_keysAt hv, countP_updatedRows hassigned] at h
  by_contra hne
  rw [if_neg fun heq => hne heq.symm] at h
  omega

/-- A check that fails names a key that occurs twice. -/
theorem checkKeys_eq_error {rows : List Row} {e : Error} (h : checkKeys key i rows = .error e) :
    ∃ v, e = .duplicateKey key v ∧ 2 ≤ (keysAt i rows).count v := by
  unfold checkKeys at h
  split at h
  next v hrepeat => exact ⟨v, (Except.error.inj h).symm, two_le_count_of_firstRepeat? hrepeat⟩
  next => contradiction

/-! ## How an update ends -/

/-- What is bound is assigned if the keys pass their check. -/
theorem update_of_bound (hbound : t.bindAssignments assignments = .ok bound)
    (htest : test.mapM t.bindTest = .ok boundTest)
    (hcheck : t.checkAssigned bound (updatedRows bound boundTest t.rows) = .ok ()) :
    t.update assignments test =
      .ok (t.rows.countP (fun row => boundTest.all (matchesAt · row)),
        { t with rows := updatedRows bound boundTest t.rows }) := by
  rw [update_eq, hbound, ok_bind, htest, ok_bind, hcheck]
  rfl

/-- An update fails when something cannot be bound or the check of the keys fails. -/
theorem update_eq_error {e : Error} (h : t.update assignments test = .error e) :
    e.OfBinding ∨ ∃ bound boundTest, t.bindAssignments assignments = .ok bound ∧
      t.checkAssigned bound (updatedRows bound boundTest t.rows) = .error e := by
  rw [update_eq] at h
  rcases bind_eq_error_iff.mp h with h | ⟨bound, hbound, h⟩
  · exact .inl (bindAssignments_eq_error h)
  rcases bind_eq_error_iff.mp h with h | ⟨boundTest, -, h⟩
  · cases test with
    | none => contradiction
    | some test => exact .inl (bindTest_eq_error (map_eq_error_iff.mp h))
  rcases bind_eq_error_iff.mp h with h | ⟨_, -, h⟩
  · exact .inr ⟨bound, boundTest, hbound, h⟩
  · contradiction

/-! ## Updates that leave the key alone -/

section Unassigned

variable (hkey : t.schema.primaryKey = some key) (hnone : assignments.get? key = none)

include hkey hnone

/-- The keys are not checked if the key is not assigned. -/
theorem checkAssigned_of_get?_eq_none (hbound : t.bindAssignments assignments = .ok bound)
    (rows : List Row) : t.checkAssigned bound rows = .ok () := by
  rw [checkAssigned_eq_ok_iff]
  intro name i hcolumn hassigned
  obtain ⟨hkey', hposition⟩ := Schema.keyColumn?_eq_some_iff.mp hcolumn
  cases hkey'.symm.trans hkey
  obtain ⟨v, hvalue⟩ := (any_bound_iff hbound hposition).mp hassigned
  cases hnone.symm.trans hvalue

/-- An update fails over no key if it does not assign the key. -/
theorem update_ne_duplicateKey (name : String) (u : Value) :
    t.update assignments test ≠ .error (.duplicateKey name u) := by
  intro h
  rcases update_eq_error h with hbinding | ⟨bound, _, hbound, hcheck⟩
  · exact hbinding
  · rw [checkAssigned_of_get?_eq_none hkey hnone hbound] at hcheck
    contradiction

/-- An update that does not assign the key succeeds once all is bound. -/
theorem update_of_get?_eq_none (hbound : t.bindAssignments assignments = .ok bound)
    (htest : test.mapM t.bindTest = .ok boundTest) :
    t.update assignments test =
      .ok (t.rows.countP (fun row => boundTest.all (matchesAt · row)),
        { t with rows := updatedRows bound boundTest t.rows }) :=
  update_of_bound hbound htest (checkAssigned_of_get?_eq_none hkey hnone hbound _)

end Unassigned

/-! ## Updates of the key -/

section Assigned

variable (ht : t.Valid) (hkey : t.schema.primaryKey = some key)
  (hbound : t.bindAssignments assignments = .ok bound) (hvalue : assignments.get? key = some v)
  (hlocate : t.schema.locate key = .ok (i, type)) (hcast : type.cast v = .ok w)

include ht hkey hbound hvalue hlocate hcast

/-- **The check of an update of the key fails just if the value assigned would occur twice.** -/
theorem Valid.checkAssigned_eq_ok_iff_not_keyClash :
    t.checkAssigned bound (updatedRows bound boundTest t.rows) = .ok () ↔
      ¬ t.KeyClash i w boundTest := by
  have hcolumn : t.schema.keyColumn? = some (key, i) :=
    Schema.keyColumn?_eq_some_iff.mpr ⟨hkey, Schema.position?_of_locate hlocate⟩
  have hany : bound.any (·.1 == i) = true :=
    (any_bound_iff hbound (Schema.position?_of_locate hlocate)).mpr ⟨v, hvalue⟩
  have hassigned : ∀ row ∈ t.rows, cellAt (assignCells bound row) i = w := fun row hrow =>
    ht.cellAt_assignCells hbound hlocate hvalue hcast hrow
  rw [← ht.keysAt_updatedRows_nodup_iff hcolumn hassigned, ← checkKeys_eq_ok_iff,
    checkAssigned_eq_ok_iff]
  constructor
  · exact fun h => h key i hcolumn hany
  · intro h name j hcolumn' _
    cases hcolumn'.symm.trans hcolumn
    exact h

/-- The check of an update of the key names the value assigned. -/
theorem Valid.eq_of_checkAssigned_eq_error {e : Error}
    (h : t.checkAssigned bound (updatedRows bound boundTest t.rows) = .error e) :
    e = .duplicateKey key w := by
  have hassigned : ∀ row ∈ t.rows, cellAt (assignCells bound row) i = w := fun row hrow =>
    ht.cellAt_assignCells hbound hlocate hvalue hcast hrow
  obtain ⟨name, j, hcolumn, -, hcheck⟩ := checkAssigned_eq_error h
  obtain ⟨hkey', hposition⟩ := Schema.keyColumn?_eq_some_iff.mp hcolumn
  cases hkey'.symm.trans hkey
  cases hposition.symm.trans (Schema.position?_of_locate hlocate)
  obtain ⟨u, rfl, htwo⟩ := checkKeys_eq_error hcheck
  rw [ht.eq_of_two_le_count hcolumn hassigned htwo]

section Bound

variable (htest : test.mapM t.bindTest = .ok boundTest)

include htest

/-- **An update of the key succeeds if no key occurs twice after it.** -/
theorem Valid.update_of_not_keyClash (hclash : ¬ t.KeyClash i w boundTest) :
    t.update assignments test =
      .ok (t.rows.countP (fun row => boundTest.all (matchesAt · row)),
        { t with rows := updatedRows bound boundTest t.rows }) :=
  update_of_bound hbound htest
    ((ht.checkAssigned_eq_ok_iff_not_keyClash hkey hbound hvalue hlocate hcast).mpr hclash)

/-- **An update of the key fails over the value assigned if that would occur twice.** -/
theorem Valid.update_of_keyClash (hclash : t.KeyClash i w boundTest) :
    t.update assignments test = .error (.duplicateKey key w) := by
  rw [update_eq, hbound, ok_bind, htest, ok_bind]
  cases hcheck : t.checkAssigned bound (updatedRows bound boundTest t.rows) with
  | ok _ =>
      have hfree : ¬ t.KeyClash i w boundTest :=
        (ht.checkAssigned_eq_ok_iff_not_keyClash hkey hbound hvalue hlocate hcast).mp hcheck
      contradiction
  | error e =>
      rw [ht.eq_of_checkAssigned_eq_error hkey hbound hvalue hlocate hcast hcheck]
      rfl

end Bound

end Assigned

end Table

end RelStore
