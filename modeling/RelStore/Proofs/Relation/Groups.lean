import RelStore.Proofs.Occurrence
import RelStore.Proofs.Relation.Selected
import RelStore.Relation.Group

/-!
# Groups of rows

The rows are parted by what they hold at the positions: the first row opens a group with all rows of
its key, and the rest are parted in the same way (`groupRows_cons`).  So the groups together have
every row once (`flatten_groupRows_perm`), and to leave out the rows of some keys is to leave out
their groups (`groupRows_filter`).
-/

namespace RelStore

variable {positions : List Nat} {rows group : List Row}

theorem groupsOf_of_ne_nil (h : positions ≠ []) (rows : List Row) :
    groupsOf positions rows = groupRows positions rows := by
  unfold groupsOf
  rw [if_neg]
  simpa using h

/-- The rows that hold at the positions what the given one does. -/
def groupOf (positions : List Nat) (rows : List Row) (first : Row) : List Row :=
  rows.filter fun row => cellsAt positions row = cellsAt positions first

theorem mem_groupOf_iff {row first : Row} :
    row ∈ groupOf positions rows first ↔
      row ∈ rows ∧ cellsAt positions row = cellsAt positions first := by
  unfold groupOf
  rw [List.mem_filter, decide_eq_true_iff]

/-- The groups are those of the first rows. -/
theorem groupRows_eq_map (positions : List Nat) (rows : List Row) :
    groupRows positions rows = (firstBy (cellsAt positions) rows).map (groupOf positions rows) :=
  rfl

/-- The rows of a group are of one key. -/
theorem cellsAt_eq_of_mem_groupRows (h : group ∈ groupRows positions rows) {row other : Row}
    (hrow : row ∈ group) (hother : other ∈ group) :
    cellsAt positions row = cellsAt positions other := by
  obtain ⟨first, -, rfl⟩ := List.mem_map.mp h
  rw [(mem_groupOf_iff.mp hrow).2, (mem_groupOf_iff.mp hother).2]

/-- A column grouped by has one value in a group. -/
theorem read_position_of_mem (h : group ∈ groupRows positions rows) {row : Row} (hrow : row ∈ group)
    {i : Nat} (hi : i ∈ positions) (computed : List (Aggregate × Value)) :
    CellSource.read computed group (.position i) = cellAt row i := by
  cases group with
  | nil => contradiction
  | cons first rest =>
      have hkey := cellsAt_eq_of_mem_groupRows h List.mem_cons_self hrow
      exact cellsAt_eq_iff.mp hkey i hi

/-- **Rows that are left out by their keys are left out in groups.** -/
theorem groupRows_filter {p : Row → Bool} {keeps : List Row → Bool}
    (hp : ∀ row other, cellsAt positions row = cellsAt positions other → p row = p other)
    (hkeeps : ∀ group ∈ groupRows positions rows, ∀ row ∈ group, keeps group = p row) :
    groupRows positions (rows.filter p) = (groupRows positions rows).filter keeps := by
  have hfirst : ∀ first ∈ firstBy (cellsAt positions) rows,
      keeps (groupOf positions rows first) = p first := by
    intro first hmem
    refine hkeeps _ (List.mem_map_of_mem hmem) first ?_
    exact mem_groupOf_iff.mpr ⟨mem_of_mem_firstBy hmem, rfl⟩
  have hkept : (firstBy (cellsAt positions) rows).filter (keeps ∘ groupOf positions rows) =
      (firstBy (cellsAt positions) rows).filter p := List.filter_congr hfirst
  rw [groupRows_eq_map, groupRows_eq_map, List.filter_map, hkept,
    firstBy_filter_of_congr fun row _ other _ => hp row other]
  refine List.map_congr_left fun first hmem => ?_
  unfold groupOf
  rw [List.filter_filter]
  -- the rows of a key that is selected are selected
  refine List.filter_congr fun row _ => ?_
  by_cases hkey : cellsAt positions row = cellsAt positions first
  · simp [hkey, hp row first hkey, (List.mem_filter.mp hmem).2]
  · simp [hkey]

/-- **The first row opens a group, and the rows of other keys are parted among themselves.** -/
theorem groupRows_cons (positions : List Nat) (row : Row) (rows : List Row) :
    groupRows positions (row :: rows) =
      (row :: rows.filter fun other => cellsAt positions other = cellsAt positions row) ::
        groupRows positions
          (rows.filter fun other => cellsAt positions other ≠ cellsAt positions row) := by
  have hfirst : firstBy (cellsAt positions) (row :: rows) =
      row :: (firstBy (cellsAt positions) rows).filter fun other =>
        cellsAt positions other ≠ cellsAt positions row := rfl
  have hhead : groupOf positions (row :: rows) row =
      row :: rows.filter fun other => cellsAt positions other = cellsAt positions row :=
    List.filter_cons_of_pos (by simp)
  rw [groupRows_eq_map, groupRows_eq_map, hfirst,
    firstBy_filter (cellsAt positions) fun key => key ≠ cellsAt positions row, List.map_cons, hhead]
  refine congrArg (_ :: ·) (List.map_congr_left fun first hfirst => ?_)
  have hne : cellsAt positions first ≠ cellsAt positions row := by
    simpa using (List.mem_filter.mp hfirst).2
  unfold groupOf
  rw [List.filter_cons_of_neg (by simpa using hne.symm), List.filter_filter]
  refine List.filter_congr fun other _ => ?_
  by_cases hkey : cellsAt positions other = cellsAt positions first
  · simp [hkey, hne]
  · simp [hkey]

theorem ne_nil_of_mem_groupRows (h : group ∈ groupRows positions rows) : group ≠ [] := by
  obtain ⟨first, hfirst, rfl⟩ := List.mem_map.mp h
  exact List.ne_nil_of_mem (mem_groupOf_iff.mpr ⟨mem_of_mem_firstBy hfirst, rfl⟩)

/-- The rows of a group are one group by themselves. -/
theorem groupRows_of_mem (h : group ∈ groupRows positions rows) :
    groupRows positions group = [group] := by
  cases group with
  | nil => exact absurd rfl (ne_nil_of_mem_groupRows h)
  | cons first rest =>
      have hsame : ∀ row ∈ rest, cellsAt positions row = cellsAt positions first := fun row hrow =>
        cellsAt_eq_of_mem_groupRows h (List.mem_cons_of_mem first hrow) List.mem_cons_self
      have hnone : (rest.filter fun row => cellsAt positions row ≠ cellsAt positions first) = [] :=
        List.filter_eq_nil_iff.mpr fun row hrow => by simp [hsame row hrow]
      have hall : (rest.filter fun row => cellsAt positions row = cellsAt positions first) = rest :=
        List.filter_eq_self.mpr fun row hrow => by simp [hsame row hrow]
      rw [groupRows_cons, hall, hnone]
      rfl

/-- **The groups have every row once.** -/
theorem flatten_groupRows_perm (positions : List Nat) (rows : List Row) :
    (groupRows positions rows).flatten.Perm rows := by
  induction hn : rows.length using Nat.strongRecOn generalizing rows with
  | _ n ih =>
      cases rows with
      | nil => exact .refl _
      | cons row rows =>
          have hlt : (rows.filter fun other =>
              cellsAt positions other ≠ cellsAt positions row).length < n := by
            rw [← hn]
            exact Nat.lt_succ_of_le (List.length_filter_le _ _)
          rw [groupRows_cons, List.flatten_cons, List.cons_append]
          refine (((ih _ hlt _ rfl).append_left _).trans ?_).cons row
          simpa using List.filter_append_perm
            (fun other => decide (cellsAt positions other = cellsAt positions row)) rows

end RelStore
