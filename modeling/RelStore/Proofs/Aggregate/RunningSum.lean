import Mathlib.Algebra.BigOperators.Group.List.Basic
import Mathlib.Algebra.Order.Ring.Int
import Mathlib.Data.List.Infix
import RelStore.Aggregate.Fold
import RelStore.Proofs.Result

/-!
# Running sums of integers

A sum is added up row by row.  It is an integer as long as the running sum is a word of 64 bits, and
a double from the first row on with which it is not, even if later rows would bring it back.  So the
sum of a column of integers and nulls depends on every running sum, not on the last alone.

| the running sums | the sum is |
| --- | --- |
| all fit, in the order of the rows | the integer that the rows add up to |
| some does not, in that order | a double |
| all fit, in every order of the rows | that integer, whatever the order |

Between them the positive and the negative integers of a column bound every running sum in every
order, and each of the two is one: of the order that puts them first.  So the sum does not depend
on the order just if both of them fit (`fold_sum_integers`).
-/

namespace RelStore

/-- The exact sum of integers. -/
def exactSum (ints : List Int64) : Int :=
  (ints.map (·.toInt)).sum

/-- The exact sum of the positive ones among integers. -/
def positiveSum (ints : List Int64) : Int :=
  (ints.map fun n => max n.toInt 0).sum

/-- The exact sum of the negative ones among integers. -/
def negativeSum (ints : List Int64) : Int :=
  (ints.map fun n => min n.toInt 0).sum

/-- Every running sum of the integers is a word of 64 bits. -/
def RunningSumsFit (ints : List Int64) : Prop :=
  ∀ first, first <+: ints → FitsInt64 (exactSum first)

section Sums

variable {ints ints' : List Int64} {n : Int64}

@[simp] theorem exactSum_nil : exactSum [] = 0 := rfl

@[simp] theorem exactSum_cons : exactSum (n :: ints) = n.toInt + exactSum ints := rfl

@[simp] theorem positiveSum_nil : positiveSum [] = 0 := rfl

@[simp] theorem positiveSum_cons : positiveSum (n :: ints) = max n.toInt 0 + positiveSum ints :=
  rfl

@[simp] theorem negativeSum_nil : negativeSum [] = 0 := rfl

@[simp] theorem negativeSum_cons : negativeSum (n :: ints) = min n.toInt 0 + negativeSum ints :=
  rfl

theorem positiveSum_perm (h : ints.Perm ints') : positiveSum ints = positiveSum ints' :=
  (h.map _).sum_eq

theorem negativeSum_perm (h : ints.Perm ints') : negativeSum ints = negativeSum ints' :=
  (h.map _).sum_eq

/-- Some of the integers add up to no more than the positive ones do, and to no less than the
negative ones do. -/
theorem exactSum_bounds (h : ints.Sublist ints') :
    negativeSum ints' ≤ exactSum ints ∧ exactSum ints ≤ positiveSum ints' := by
  induction h with
  | slnil => simp
  | cons n _ ih =>
      rw [negativeSum_cons, positiveSum_cons]
      omega
  | cons_cons n _ ih =>
      rw [negativeSum_cons, positiveSum_cons, exactSum_cons]
      omega

theorem exactSum_filter_positive (ints : List Int64) :
    exactSum (ints.filter fun n => 0 < n.toInt) = positiveSum ints := by
  induction ints with
  | nil => rfl
  | cons n ints ih =>
      rw [positiveSum_cons, ← ih]
      by_cases hn : 0 < n.toInt
      · rw [List.filter_cons_of_pos (by simpa using hn), exactSum_cons]
        omega
      · rw [List.filter_cons_of_neg (by simpa using hn)]
        omega

theorem exactSum_filter_negative (ints : List Int64) :
    exactSum (ints.filter fun n => n.toInt < 0) = negativeSum ints := by
  induction ints with
  | nil => rfl
  | cons n ints ih =>
      rw [negativeSum_cons, ← ih]
      by_cases hn : n.toInt < 0
      · rw [List.filter_cons_of_pos (by simpa using hn), exactSum_cons]
        omega
      · rw [List.filter_cons_of_neg (by simpa using hn)]
        omega

/-- Running sums fit in every order if the positive integers fit, and the negative ones. -/
theorem runningSumsFit_of_bounds (hpositive : FitsInt64 (positiveSum ints))
    (hnegative : FitsInt64 (negativeSum ints)) : RunningSumsFit ints := by
  intro first hfirst
  obtain ⟨hlow, hhigh⟩ := exactSum_bounds hfirst.sublist
  exact ⟨hnegative.1.trans hlow, hhigh.trans hpositive.2⟩

end Sums

/-! ## Adding up -/

/-- A sum that has become a double stays one. -/
theorem exists_foldl_addNumbers_float (x : Binary64) (ints : List Int64) :
    ∃ y, (ints.map .integer).foldl addNumbers (.float x) = .float y := by
  induction ints generalizing x with
  | nil => exact ⟨x, rfl⟩
  | cons n ints ih => exact ih _

/-- **Integers are added up to an integer just if every running sum fits.** -/
theorem foldl_addNumbers_cases (ints : List Int64) (start : Int64) :
    ((∀ first, first <+: ints → FitsInt64 (start.toInt + exactSum first)) ∧
      ∃ total : Int64, (ints.map .integer).foldl addNumbers (.integer start) = .integer total ∧
        total.toInt = start.toInt + exactSum ints) ∨
    ((¬ ∀ first, first <+: ints → FitsInt64 (start.toInt + exactSum first)) ∧
      ∃ x, (ints.map .integer).foldl addNumbers (.integer start) = .float x) := by
  induction ints generalizing start with
  | nil =>
      left
      refine ⟨fun first hfirst => ?_, start, rfl, by simp⟩
      rw [List.prefix_nil.mp hfirst]
      simpa using fitsInt64_toInt start
  | cons n ints ih =>
      by_cases hfits : FitsInt64 (start.toInt + n.toInt)
      · -- the next running sum is a word, and the rest is added to it
        obtain ⟨next, hnext⟩ : ∃ next, addInt64? start n = some next := ⟨_, if_pos hfits⟩
        have htoInt : next.toInt = start.toInt + n.toInt := toInt_of_int64?_eq_some hnext
        have hadd : addNumbers (.integer start) (.integer n) = .integer next := by
          simp only [addNumbers, hnext]
        have hprefixes : (∀ first, first <+: n :: ints →
              FitsInt64 (start.toInt + exactSum first)) ↔
            ∀ first, first <+: ints → FitsInt64 (next.toInt + exactSum first) := by
          rw [htoInt]
          constructor
          · intro h first hfirst
            have := h (n :: first) (List.cons_prefix_cons.mpr ⟨rfl, hfirst⟩)
            rwa [exactSum_cons, ← add_assoc] at this
          · intro h first hfirst
            rcases List.prefix_cons_iff.mp hfirst with rfl | ⟨rest, rfl, hrest⟩
            · simpa using fitsInt64_toInt start
            · rw [exactSum_cons, ← add_assoc]
              exact h rest hrest
        rw [List.map_cons, List.foldl_cons, hadd, hprefixes, exactSum_cons, ← add_assoc, ← htoInt]
        exact ih next
      · right
        have hnext : addInt64? start n = none := int64?_eq_none_iff.mpr hfits
        obtain ⟨x, hadd⟩ : ∃ x, addNumbers (.integer start) (.integer n) = .float x := by
          simp only [addNumbers, hnext, Value.float.injEq, exists_eq']
        constructor
        · intro h
          have := h [n] (by simp)
          exact hfits (by simpa using this)
        · rw [List.map_cons, List.foldl_cons, hadd]
          exact exists_foldl_addNumbers_float x ints

/-! ## Columns of integers and nulls -/

section Column

variable {i : Nat} {rows rows' : List Row}

/-- The integers in a column, nulls left out. -/
def integersAt (i : Nat) (rows : List Row) : List Int64 :=
  (nonNullAt i rows).filterMap fun
    | .integer n => some n
    | _ => none

theorem map_integersAt (hholds : ∀ row ∈ rows, ColumnType.integer.Holds (cellAt row i)) :
    (integersAt i rows).map .integer = nonNullAt i rows := by
  have hvalues : ∀ v ∈ nonNullAt i rows, ∃ n, v = .integer n := by
    intro v hv
    obtain ⟨hv, hnull⟩ := List.mem_filter.mp hv
    obtain ⟨row, hrow, rfl⟩ := List.mem_map.mp hv
    have hv := hholds row hrow
    cases hcell : cellAt row i <;> simp_all [ColumnType.Holds]
  unfold integersAt
  generalize nonNullAt i rows = values at hvalues
  induction values with
  | nil => rfl
  | cons v values ih =>
      obtain ⟨⟨n, rfl⟩, hrest⟩ := List.forall_mem_cons.mp hvalues
      exact congrArg (Value.integer n :: ·) (ih hrest)

theorem numbers_map_integer (ints : List Int64) :
    numbers (ints.map .integer) = .ok (ints.map .integer) := by
  unfold numbers
  rw [mapM_eq_ok_iff, List.forall₂_map_left_iff, List.forall₂_map_right_iff, List.forall₂_same]
  exact fun _ _ => rfl

/-- The sum of a column of integers and nulls is an integer just if every running sum fits. -/
theorem fold_sum_cases (hholds : ∀ row ∈ rows, ColumnType.integer.Holds (cellAt row i)) :
    (RunningSumsFit (integersAt i rows) ∧ ∃ total : Int64,
      AggregateFunction.sum.fold (some i) rows = .ok (.integer total) ∧
        total.toInt = exactSum (integersAt i rows)) ∨
    (¬ RunningSumsFit (integersAt i rows) ∧ ∃ x,
      AggregateFunction.sum.fold (some i) rows = .ok (.float x)) := by
  have hfold : AggregateFunction.sum.fold (some i) rows =
      .ok (((integersAt i rows).map .integer).foldl addNumbers (.integer 0)) := by
    show (numbers (nonNullAt i rows)).map sumOf = _
    rw [← map_integersAt hholds, numbers_map_integer]
    rfl
  have hcases := foldl_addNumbers_cases (integersAt i rows) 0
  simp only [Int64.toInt_zero, zero_add] at hcases
  rw [hfold]
  simp only [Except.ok.injEq]
  exact hcases

/-- The integer in a column of a row, if there is one. -/
def integerAt? (i : Nat) (row : Row) : Option Int64 :=
  match cellAt row i with
  | .integer n => some n
  | _ => none

theorem integersAt_eq_filterMap (i : Nat) (rows : List Row) :
    integersAt i rows = rows.filterMap (integerAt? i) := by
  induction rows with
  | nil => rfl
  | cons row rows ih =>
      rw [List.filterMap_cons, ← ih]
      unfold integersAt nonNullAt integerAt?
      cases hcell : cellAt row i <;> simp [hcell, Value.isNull]

theorem integersAt_perm (hperm : rows'.Perm rows) :
    (integersAt i rows').Perm (integersAt i rows) := by
  rw [integersAt_eq_filterMap, integersAt_eq_filterMap]
  exact hperm.filterMap _

/-- The rows may be put so that the integers of one kind come first. -/
theorem exists_perm_filter_prefix (i : Nat) (rows : List Row) (p : Int64 → Bool) :
    ∃ rows', rows'.Perm rows ∧ (integersAt i rows).filter p <+: integersAt i rows' := by
  let selects (row : Row) : Bool := (integerAt? i row).any p
  refine ⟨rows.filter selects ++ rows.filter (!selects ·), List.filter_append_perm _ _, ?_⟩
  have hselected : (integersAt i rows).filter p = integersAt i (rows.filter selects) := by
    rw [integersAt_eq_filterMap, integersAt_eq_filterMap, List.filter_filterMap,
      List.filterMap_filter]
    refine List.filterMap_congr fun row _ => ?_
    cases hrow : integerAt? i row <;> simp [selects, hrow, Option.filter]
  rw [hselected, integersAt_eq_filterMap i (_ ++ _), List.filterMap_append,
    ← integersAt_eq_filterMap]
  exact List.prefix_append _ _

theorem holds_of_perm {type : ColumnType} (h : ∀ row ∈ rows, type.Holds (cellAt row i))
    (hperm : rows'.Perm rows) : ∀ row ∈ rows', type.Holds (cellAt row i) :=
  fun row hrow => h row (hperm.mem_iff.mp hrow)

/-- **A sum of integers is exact as long as every running sum fits.**  Let a column hold integers
and nulls.  The sum over rows is an integer just if every running sum in the order of the rows is a
word of 64 bits, and then it is the one that the integers add up to; otherwise it is a double.  It
is one integer in every order of the rows just if the positive integers add up to a word and the
negative ones do. -/
theorem fold_sum_integers (hholds : ∀ row ∈ rows, ColumnType.integer.Holds (cellAt row i)) :
    (∀ total : Int64, AggregateFunction.sum.fold (some i) rows = .ok (.integer total) ↔
      RunningSumsFit (integersAt i rows) ∧ total.toInt = exactSum (integersAt i rows)) ∧
    (¬ RunningSumsFit (integersAt i rows) →
      ∃ x, AggregateFunction.sum.fold (some i) rows = .ok (.float x)) ∧
    ((∃ total : Int64, ∀ rows', rows'.Perm rows →
        AggregateFunction.sum.fold (some i) rows' = .ok (.integer total)) ↔
      FitsInt64 (positiveSum (integersAt i rows)) ∧
        FitsInt64 (negativeSum (integersAt i rows))) := by
  have hiff : ∀ {rows : List Row},
      (∀ row ∈ rows, ColumnType.integer.Holds (cellAt row i)) → ∀ total : Int64,
      AggregateFunction.sum.fold (some i) rows = .ok (.integer total) ↔
        RunningSumsFit (integersAt i rows) ∧ total.toInt = exactSum (integersAt i rows) := by
    intro rows hholds total
    rcases fold_sum_cases hholds with ⟨hfit, t, ht, hsum⟩ | ⟨hfit, x, hx⟩
    · rw [ht, ← hsum]
      simp [hfit, Int64.toInt_inj, eq_comm]
    · rw [hx]
      simp [hfit]
  refine ⟨hiff hholds, fun hfit => ?_, ?_, ?_⟩
  · exact ((fold_sum_cases hholds).resolve_left fun h => hfit h.1).2
  · rintro ⟨total, htotal⟩
    -- the sum of integers of one kind is a running sum of an order in which they come first
    have hfits : ∀ p : Int64 → Bool, FitsInt64 (exactSum ((integersAt i rows).filter p)) := by
      intro p
      obtain ⟨rows', hperm, hprefix⟩ := exists_perm_filter_prefix i rows p
      obtain ⟨hfit, -⟩ := (hiff (holds_of_perm hholds hperm) total).mp (htotal rows' hperm)
      exact hfit _ hprefix
    have hpositive := hfits fun n => 0 < n.toInt
    have hnegative := hfits fun n => n.toInt < 0
    rw [exactSum_filter_positive] at hpositive
    rw [exactSum_filter_negative] at hnegative
    exact ⟨hpositive, hnegative⟩
  · rintro ⟨hpositive, hnegative⟩
    have hfit := runningSumsFit_of_bounds hpositive hnegative
    obtain ⟨-, total, -, hsum⟩ := (fold_sum_cases hholds).resolve_right fun h => h.1 hfit
    refine ⟨total, fun rows' hperm => (hiff (holds_of_perm hholds hperm) total).mpr ⟨?_, ?_⟩⟩
    · apply runningSumsFit_of_bounds
      · rwa [positiveSum_perm (integersAt_perm hperm)]
      · rwa [negativeSum_perm (integersAt_perm hperm)]
    · rw [hsum]
      exact ((integersAt_perm hperm).map (·.toInt)).sum_eq.symm

end Column

/-- One order of the greatest word, a null, and two integers that cancel. -/
theorem fold_sum_integers_withNull :
    let rows := [[.integer .maxValue], [.integer (-1)], [.null], [.integer 1]]
    (∀ row ∈ rows, ColumnType.integer.Holds (cellAt row 0)) ∧
      RunningSumsFit (integersAt 0 rows) ∧
      AggregateFunction.sum.fold (some 0) rows = .ok (.integer .maxValue) ∧
      ∃ rows', rows'.Perm rows ∧
        AggregateFunction.sum.fold (some 0) rows' ≠ .ok (.integer .maxValue) := by
  intro rows
  have hholds : ∀ row ∈ rows, ColumnType.integer.Holds (cellAt row 0) := by
    simp [rows, cellAt, ColumnType.Holds]
  have hfold : AggregateFunction.sum.fold (some 0) rows = .ok (.integer .maxValue) := by decide
  obtain ⟨hiff, -, horder⟩ := fold_sum_integers hholds
  refine ⟨hholds, ((hiff _).mp hfold).1, hfold, ?_⟩
  -- the positive integers add up to more than the greatest word
  by_contra! hall
  have hpositive := (horder.mp ⟨_, hall⟩).1
  exact absurd hpositive (by decide)

/-- The greatest word, one and minus one add up to a word, and in this order they are summed up to a
double, since the second running sum does not fit.  The other way round the sum is exact. -/
theorem fold_sum_integers_pastGreatest :
    let rows := [[.integer .maxValue], [.integer 1], [.integer (-1)]]
    (∀ row ∈ rows, ColumnType.integer.Holds (cellAt row 0)) ∧
      exactSum (integersAt 0 rows) = Int64.maxValue.toInt ∧
      AggregateFunction.sum.fold (some 0) rows = .ok (.float ⟨0x43e0000000000000⟩) ∧
      AggregateFunction.sum.fold (some 0) rows.reverse = .ok (.integer .maxValue) := by
  refine ⟨?_, by decide, by decide +kernel, by decide⟩
  simp [cellAt, ColumnType.Holds]

end RelStore
