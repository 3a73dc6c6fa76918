import Mathlib.Algebra.Order.BigOperators.Group.List
import Mathlib.Algebra.Order.Ring.Int
import RelStore.Proofs.Aggregate.RunningSum
import RelStore.Proofs.Relation.StableSort

/-!
# Aggregates of groups and of all rows

Let rows be parted into groups.  What an aggregate is over all rows follows from what it is in each
of the groups, nulls being left out in either.

| aggregate | over all rows |
| --- | --- |
| `COUNT` | the sum of the counts |
| `MIN`, `MAX` | the first of the values in the groups that are not null, in the direction |
| `SUM` of integers | the sum of the sums, if the absolute values add up to a word |

A running sum of integers becomes a double where it leaves the words of 64 bits.  The bound on the
absolute values keeps every running sum inside, in whatever order the rows are added up
(`runningSumsFit_of_absoluteSum`).
-/

namespace RelStore

variable {i : Nat} {rows rows' : List Row} {groups : List (List Row)} {parts : List Value}

theorem nonNullAt_flatten (i : Nat) (groups : List (List Row)) :
    nonNullAt i groups.flatten = (groups.map (nonNullAt i)).flatten := by
  unfold nonNullAt
  rw [List.map_flatten, List.filter_flatten, List.map_map]
  rfl

theorem nonNullAt_perm (h : rows.Perm rows') : (nonNullAt i rows).Perm (nonNullAt i rows') :=
  (h.map _).filter _

/-- The values of groups are those of the rows. -/
theorem mem_nonNullAt_iff (h : groups.flatten.Perm rows) {v : Value} :
    v ∈ nonNullAt i rows ↔ ∃ group ∈ groups, v ∈ nonNullAt i group := by
  rw [← (nonNullAt_perm h).mem_iff, nonNullAt_flatten, ← List.flatMap_def, List.mem_flatMap]

/-! ## Counts -/

/-- A count as a value. -/
def countValue (n : Nat) : Value :=
  .integer (.ofNat n)

/-- The number of rows, or of values in a column that are not null. -/
def countAt (i? : Option Nat) (rows : List Row) : Nat :=
  i?.elim rows.length fun i => (nonNullAt i rows).length

theorem fold_count (i? : Option Nat) (rows : List Row) :
    AggregateFunction.count.fold i? rows = .ok (countValue (countAt i? rows)) := by
  cases i? <;> rfl

/-- What is counted in groups is counted once. -/
theorem sum_countAt (h : groups.flatten.Perm rows) (i? : Option Nat) :
    (groups.map (countAt i?)).sum = countAt i? rows := by
  cases i? with
  | none => exact List.length_flatten.symm.trans h.length_eq
  | some i =>
      have hlength : (nonNullAt i groups.flatten).length = (nonNullAt i rows).length :=
        (nonNullAt_perm h).length_eq
      rw [nonNullAt_flatten, List.length_flatten, List.map_map] at hlength
      exact hlength

/-- **Counts of groups add up.** -/
theorem exists_counts (h : groups.flatten.Perm rows) {i? : Option Nat}
    (hparts : List.Forall₂ (fun group part => AggregateFunction.count.fold i? group = .ok part)
      groups parts) :
    ∃ counts : List Nat, parts = counts.map countValue ∧
      AggregateFunction.count.fold i? rows = .ok (countValue counts.sum) ∧
      counts.sum = countAt i? rows := by
  refine ⟨groups.map (countAt i?), ?_, ?_, sum_countAt h i?⟩
  · simp only [fold_count, Except.ok.injEq] at hparts
    rw [List.map_map, ← List.forall₂_eq_eq_eq, List.forall₂_map_right_iff]
    exact hparts.flip.imp fun _ _ heq => heq.symm
  · rw [fold_count, sum_countAt h]

/-! ## Extremes -/

/-- The value is the first of those that are not null, in the direction; a null if there is
none. -/
def IsFirst (direction : SortDirection) (values : List Value) (v : Value) : Prop :=
  (v = .null ∧ ∀ w ∈ values, w = .null) ∨
    (v ≠ .null ∧ v ∈ values ∧ ∀ w ∈ values, w ≠ .null → direction.Precedes v w)

namespace SortDirection

/-- How the first value compares with others. -/
def order : SortDirection → Ordering
  | ascending => .lt
  | descending => .gt

/-- The aggregate that is the first value: the least, or the greatest. -/
def extreme : SortDirection → AggregateFunction
  | ascending => .min
  | descending => .max

variable {direction : SortDirection} {type : ColumnType}

theorem compare?_eq_order_iff {v w : Value} :
    v.compare? w = some direction.order ↔ direction.before v w = true := by
  cases direction <;> exact beq_iff_eq.symm

/-- The first of the value kept so far and another. -/
def better (direction : SortDirection) (best : Option Value) (v : Value) : Option Value :=
  match best with
  | none => some v
  | some b => if v.compare? b = some direction.order then some v else some b

theorem fold_extreme (direction : SortDirection) (i : Nat) (rows : List Row) :
    direction.extreme.fold (some i) rows =
      .ok (((nonNullAt i rows).foldl direction.better none).getD .null) := by
  cases direction <;> rfl

/-- What is kept is the first of all values that were gone through. -/
theorem exists_foldl_better (direction : SortDirection) {best : Value} {values : List Value}
    (hbest : type.Holds best) (hholds : ∀ v ∈ values, type.Holds v) :
    ∃ b, values.foldl direction.better (some best) = some b ∧ b ∈ best :: values ∧
      ∀ w ∈ best :: values, direction.Precedes b w := by
  have hrefl : ∀ {v : Value}, type.Holds v → direction.Precedes v v := fun hv =>
    (precedes_total hv hv).elim id id
  induction values generalizing best with
  | nil =>
      refine ⟨best, rfl, List.mem_singleton.mpr rfl, fun w hw => ?_⟩
      rw [List.mem_singleton.mp hw]
      exact hrefl hbest
  | cons v values ih =>
      obtain ⟨hv, hrest⟩ := List.forall_mem_cons.mp hholds
      rw [List.foldl_cons]
      by_cases hbefore : direction.before v best = true
      · -- the new value takes the place of the one kept
        have hnext : direction.better (some best) v = some v :=
          if_pos (compare?_eq_order_iff.mpr hbefore)
        obtain ⟨b, hb, hmem, hfirst⟩ := ih hv hrest
        have hle : direction.Precedes v best :=
          (precedes_total hv hbest).resolve_right ((before_iff hv hbest).mp hbefore)
        rw [hnext]
        refine ⟨b, hb, List.mem_cons_of_mem best hmem, List.forall_mem_cons.mpr ⟨?_, hfirst⟩⟩
        exact (hfirst v List.mem_cons_self).trans hle
      · have hnext : direction.better (some best) v = some best :=
          if_neg fun h => hbefore (compare?_eq_order_iff.mp h)
        obtain ⟨b, hb, hmem, hfirst⟩ := ih hbest hrest
        obtain ⟨hfirstBest, hfirstRest⟩ := List.forall_mem_cons.mp hfirst
        have hle : direction.Precedes best v := by
          by_contra hnot
          exact hbefore ((before_iff hv hbest).mpr hnot)
        rw [hnext]
        refine ⟨b, hb, ?_, List.forall_mem_cons.mpr
          ⟨hfirstBest, List.forall_mem_cons.mpr ⟨hfirstBest.trans hle, hfirstRest⟩⟩⟩
        rcases List.mem_cons.mp hmem with rfl | hmem
        · exact List.mem_cons_self
        · exact List.mem_cons_of_mem best (List.mem_cons_of_mem v hmem)

/-- **The least and the greatest of a column are the first values in their direction.** -/
theorem exists_fold_extreme (direction : SortDirection)
    (hholds : ∀ row ∈ rows, type.Holds (cellAt row i)) :
    ∃ v, direction.extreme.fold (some i) rows = .ok v ∧
      IsFirst direction (nonNullAt i rows) v := by
  refine ⟨_, fold_extreme direction i rows, ?_⟩
  have hvalues : ∀ v ∈ nonNullAt i rows, type.Holds v ∧ v ≠ .null := by
    intro v hv
    obtain ⟨hv, hnull⟩ := List.mem_filter.mp hv
    obtain ⟨row, hrow, rfl⟩ := List.mem_map.mp hv
    exact ⟨hholds row hrow, by simpa using hnull⟩
  cases hnonNull : nonNullAt i rows with
  | nil => exact .inl ⟨rfl, fun w hw => absurd hw List.not_mem_nil⟩
  | cons v values =>
      rw [hnonNull] at hvalues
      obtain ⟨hv, hrest⟩ := List.forall_mem_cons.mp hvalues
      obtain ⟨b, hb, hmem, hfirst⟩ :=
        exists_foldl_better direction hv.1 fun w hw => (hrest w hw).1
      rw [List.foldl_cons]
      show IsFirst direction _ ((values.foldl direction.better (some v)).getD .null)
      rw [hb]
      exact .inr ⟨(hvalues b hmem).2, hmem, fun w hw _ => hfirst w hw⟩

end SortDirection

/-- The first of all values is the first of those that are first in some part of them. -/
theorem IsFirst.of_parts {direction : SortDirection} {lists : List (List Value)}
    {values : List Value} (hmem : ∀ v, v ∈ values ↔ ∃ list ∈ lists, v ∈ list)
    (hparts : List.Forall₂ (IsFirst direction) lists parts) {whole : Value}
    (hwhole : IsFirst direction values whole) : IsFirst direction parts whole := by
  have hpart : ∀ part ∈ parts, part ≠ .null → part ∈ values := by
    intro part hpart hnull
    obtain ⟨list, hlist, hfirst⟩ := exists_mem_of_forall₂ hparts hpart
    obtain ⟨-, hvalue, -⟩ := hfirst.resolve_left fun h => hnull h.1
    exact (hmem part).mpr ⟨list, hlist, hvalue⟩
  rcases hwhole with ⟨rfl, hall⟩ | ⟨hnull, hvalue, hfirst⟩
  · refine .inl ⟨rfl, fun part hmemPart => ?_⟩
    by_contra hne
    exact hne (hall part (hpart part hmemPart hne))
  · -- the first value of the part that it is in is neither before it nor after it
    obtain ⟨list, hlist, hvalue⟩ := (hmem whole).mp hvalue
    obtain ⟨part, hmemPart, hpartFirst⟩ := exists_mem_of_forall₂ hparts.flip hlist
    obtain ⟨hne, -, hbefore⟩ := hpartFirst.resolve_left fun h => hnull (h.2 whole hvalue)
    have hafter : direction.Precedes whole part := hfirst part (hpart part hmemPart hne) hne
    have heq : whole = part := hafter.antisymm (hbefore whole hvalue hnull)
    exact .inr ⟨hnull, heq ▸ hmemPart, fun part hmemPart hne =>
      hfirst part (hpart part hmemPart hne) hne⟩

/-- **The extreme of all rows is the extreme of the groups' extremes.** -/
theorem exists_extreme (h : groups.flatten.Perm rows) {direction : SortDirection}
    {type : ColumnType} (hholds : ∀ row ∈ rows, type.Holds (cellAt row i))
    (hparts : List.Forall₂ (fun group part => direction.extreme.fold (some i) group = .ok part)
      groups parts) :
    ∃ whole, direction.extreme.fold (some i) rows = .ok whole ∧
      IsFirst direction parts whole := by
  obtain ⟨whole, hwhole, hfirst⟩ := direction.exists_fold_extreme hholds
  have hmem : ∀ v, v ∈ nonNullAt i rows ↔ ∃ list ∈ groups.map (nonNullAt i), v ∈ list := by
    intro v
    rw [mem_nonNullAt_iff h]
    simp
  have hgroups : ∀ group ∈ groups, ∀ row ∈ group, type.Holds (cellAt row i) :=
    fun group hgroup row hrow => hholds row (h.subset (List.mem_flatten_of_mem hgroup hrow))
  refine ⟨whole, hwhole, .of_parts hmem ?_ hfirst⟩
  rw [List.forall₂_map_left_iff]
  refine ((List.forall₂_and_left _ _).mpr ⟨hgroups, hparts⟩).imp ?_
  rintro group part ⟨hgroup, hpart⟩
  obtain ⟨v, hv, hpartFirst⟩ := direction.exists_fold_extreme hgroup
  cases hv.symm.trans hpart
  exact hpartFirst

/-! ## Sums of integers -/

theorem integersAt_flatten_perm (h : groups.flatten.Perm rows) :
    ((groups.map (integersAt i)).flatten).Perm (integersAt i rows) := by
  have hflatten : (groups.map (integersAt i)).flatten = integersAt i groups.flatten := by
    unfold integersAt
    rw [nonNullAt_flatten, List.filterMap_flatten, List.map_map]
    rfl
  rw [hflatten]
  exact integersAt_perm h

/-- The sum of the absolute values. -/
def absoluteSum (ints : List Int64) : Nat :=
  (ints.map (·.toInt.natAbs)).sum

/-- The positive and the negative integers add up to no more than all absolute values do. -/
theorem sums_le_absoluteSum (ints : List Int64) :
    (0 ≤ positiveSum ints ∧ positiveSum ints ≤ absoluteSum ints) ∧
      -(absoluteSum ints : Int) ≤ negativeSum ints ∧ negativeSum ints ≤ 0 := by
  induction ints with
  | nil => simp [absoluteSum]
  | cons n ints ih =>
      have hcons : absoluteSum (n :: ints) = n.toInt.natAbs + absoluteSum ints := rfl
      rw [positiveSum_cons, negativeSum_cons, hcons]
      omega

/-- Integers whose absolute values add up to a word have running sums that fit. -/
theorem runningSumsFit_of_absoluteSum {ints : List Int64}
    (hbound : (absoluteSum ints : Int) ≤ Int64.maxValue.toInt) : RunningSumsFit ints := by
  have hmin : Int64.minValue.toInt = -Int64.maxValue.toInt - 1 := by decide
  obtain ⟨⟨hpositive, hhigh⟩, hlow, hnegative⟩ := sums_le_absoluteSum ints
  apply runningSumsFit_of_bounds
  · exact ⟨by omega, by omega⟩
  · exact ⟨by omega, by omega⟩

/-- The sum of a column of integers is an integer, if their absolute values add up to a word. -/
theorem exists_fold_sum (hholds : ∀ row ∈ rows, ColumnType.integer.Holds (cellAt row i))
    (hbound : (absoluteSum (integersAt i rows) : Int) ≤ Int64.maxValue.toInt) :
    ∃ total : Int64, AggregateFunction.sum.fold (some i) rows = .ok (.integer total) ∧
      total.toInt = ((integersAt i rows).map (·.toInt)).sum :=
  ((fold_sum_cases hholds).resolve_right fun h =>
    h.1 (runningSumsFit_of_absoluteSum hbound)).2

/-- The integers of a group are some of those of all rows. -/
theorem absoluteSum_le (h : groups.flatten.Perm rows) {group : List Row} (hgroup : group ∈ groups) :
    absoluteSum (integersAt i group) ≤ absoluteSum (integersAt i rows) := by
  have hsublist : (integersAt i group).Sublist (groups.map (integersAt i)).flatten :=
    List.sublist_flatten_of_mem (List.mem_map_of_mem hgroup)
  have hperm := (integersAt_flatten_perm (i := i) h).map (·.toInt.natAbs)
  unfold absoluteSum
  rw [← hperm.sum_eq]
  exact (hsublist.map _).sum_le_sum fun n _ => Nat.zero_le n

/-- **Sums of groups add up**, if the absolute values of all summands do. -/
theorem exists_totals (h : groups.flatten.Perm rows)
    (hholds : ∀ row ∈ rows, ColumnType.integer.Holds (cellAt row i))
    (hbound : (absoluteSum (integersAt i rows) : Int) ≤ Int64.maxValue.toInt)
    (hparts : List.Forall₂ (fun group part => AggregateFunction.sum.fold (some i) group = .ok part)
      groups parts) :
    ∃ (totals : List Int64) (total : Int64), parts = totals.map .integer ∧
      AggregateFunction.sum.fold (some i) rows = .ok (.integer total) ∧
      total.toInt = (totals.map (·.toInt)).sum := by
  obtain ⟨total, htotal, hsum⟩ := exists_fold_sum hholds hbound
  have hgroups : ∀ group ∈ groups, ∀ part,
      AggregateFunction.sum.fold (some i) group = .ok part → ∃ groupTotal : Int64,
        ((integersAt i group).map (·.toInt)).sum = groupTotal.toInt ∧
          .integer groupTotal = part := by
    intro group hgroup part hpart
    have hgroupHolds : ∀ row ∈ group, ColumnType.integer.Holds (cellAt row i) :=
      fun row hrow => hholds row (h.subset (List.mem_flatten_of_mem hgroup hrow))
    have hgroupBound := absoluteSum_le (i := i) h hgroup
    obtain ⟨groupTotal, hfold, hgroupSum⟩ := exists_fold_sum hgroupHolds (by omega)
    exact ⟨groupTotal, hgroupSum.symm, Except.ok.inj (hfold.symm.trans hpart)⟩
  obtain ⟨totals, hsums, hvalues⟩ := exists_forall₂_of_forall₂ hparts hgroups
  rw [← List.forall₂_map_left_iff, List.forall₂_eq_eq_eq] at hvalues
  refine ⟨totals, total, hvalues.symm, htotal, ?_⟩
  have hperm := (integersAt_flatten_perm (i := i) h).map (·.toInt)
  calc
    total.toInt = ((integersAt i rows).map (·.toInt)).sum := hsum
    _ = ((groups.map (integersAt i)).flatten.map (·.toInt)).sum := hperm.sum_eq.symm
    _ = (groups.map fun group => ((integersAt i group).map (·.toInt)).sum).sum := by
      rw [List.map_flatten, List.sum_flatten, List.map_map, List.map_map]
      rfl
    _ = (totals.map (·.toInt)).sum := congrArg List.sum (map_eq_map_iff_forall₂.mpr hsums)

end RelStore
