import RelStore.Proofs.Relation.StableSort
import RelStore.Relation.Sorter

/-!
# Sorts by a comparison

A comparison is a total order on a list when it goes the other way round for elements the other way
round, and "not after" carries over (`TotalOn`).  All that is asked of a sort is that it makes the
stable sort of such a list (`Sorter.Stable`).  What it does to any other is left open: values of
which the first precedes the second, the second the third and the third the first have no order that
could be made.

There is one stable sort by a total order (`SortedBy.unique`), and sorting by insertion makes it
(`sortedBy_stableSort`).  So on rows that a comparison orders totally any such sort does what
sorting by insertion does (`Relation.sortWith_eq_sort`).
-/

namespace RelStore

universe u

variable {α : Type u} {compare : α → α → Ordering} {l sorted other : List α}

/-- The comparison is a total order of the elements of the list. -/
structure TotalOn (compare : α → α → Ordering) (l : List α) : Prop where
  swap : ∀ a ∈ l, ∀ b ∈ l, compare b a = (compare a b).swap
  trans : ∀ a ∈ l, ∀ b ∈ l, ∀ c ∈ l,
    compare a b ≠ .gt → compare b c ≠ .gt → compare a c ≠ .gt

instance : Decidable (TotalOn compare l) :=
  decidable_of_iff
    ((∀ a ∈ l, ∀ b ∈ l, compare b a = (compare a b).swap) ∧
      ∀ a ∈ l, ∀ b ∈ l, ∀ c ∈ l,
        compare a b ≠ .gt → compare b c ≠ .gt → compare a c ≠ .gt)
    ⟨fun ⟨hswap, htrans⟩ => ⟨hswap, htrans⟩, fun h => ⟨h.swap, h.trans⟩⟩

/-- The second list has the elements of the first in the order of the comparison, and elements that
are equal in it as they stood. -/
structure SortedBy (compare : α → α → Ordering) (l sorted : List α) : Prop where
  perm : sorted.Perm l
  ordered : sorted.Pairwise fun a b => compare a b ≠ .gt
  stable : ∀ a ∈ l, sorted.filter (compare a · == .eq) = l.filter (compare a · == .eq)

namespace TotalOn

variable {a b c : α}

theorem self_eq (h : TotalOn compare l) (ha : a ∈ l) : compare a a = .eq := by
  have hswap := h.swap a ha a ha
  cases hself : compare a a <;> rw [hself] at hswap <;> simp at hswap ⊢

/-- Elements of which neither is after the other are equal. -/
theorem eq_of_ne_gt (h : TotalOn compare l) (ha : a ∈ l) (hb : b ∈ l) (hab : compare a b ≠ .gt)
    (hba : compare b a ≠ .gt) : compare a b = .eq := by
  rw [h.swap a ha b hb] at hba
  cases hcompare : compare a b <;> simp_all

/-- Elements equal to one are equal. -/
theorem eq_of_eq_of_eq (h : TotalOn compare l) (ha : a ∈ l) (hb : b ∈ l) (hc : c ∈ l)
    (hab : compare a b = .eq) (hac : compare a c = .eq) : compare b c = .eq := by
  have hba : compare b a = .eq := by rw [h.swap a ha b hb, hab]; rfl
  have hca : compare c a = .eq := by rw [h.swap a ha c hc, hac]; rfl
  refine h.eq_of_ne_gt hb hc ?_ ?_
  · exact h.trans b hb a ha c hc (by simp [hba]) (by simp [hac])
  · exact h.trans c hc a ha b hb (by simp [hca]) (by simp [hab])

end TotalOn

/-- **A list has one stable sort by a total order.** -/
theorem SortedBy.unique (htotal : TotalOn compare l) (h : SortedBy compare l sorted)
    (hother : SortedBy compare l other) : sorted = other :=
  eq_of_filter_same (compare · · == .eq) h.perm.subset hother.perm.subset
    (fun _ ha => beq_iff_eq.mpr (htotal.self_eq ha))
    (fun _ ha _ hb hab hba => beq_iff_eq.mpr (htotal.eq_of_ne_gt ha hb hab hba))
    h.ordered hother.ordered fun a ha => (h.stable a ha).trans (hother.stable a ha).symm

/-- **Sorting by insertion makes the stable sort.** -/
theorem sortedBy_stableSort (h : TotalOn compare l) :
    SortedBy compare l (stableSort (fun a b => compare a b == .lt) l) := by
  refine ⟨stableSort_perm _ _, pairwise_stableSort h.trans ?_ ?_,
    fun a ha => filter_stableSort ?_⟩
  · intro a _ b _ hbefore
    simp [beq_iff_eq.mp hbefore]
  · intro a ha b hb hafter
    rw [h.swap a ha b hb]
    cases hcompare : compare a b <;> simp_all
  · intro b hb c hc hbefore hab
    by_contra hac
    have hbc := h.eq_of_eq_of_eq ha hb hc (beq_iff_eq.mp hab) (by simpa using hac)
    simp [hbc] at hbefore

/-! ## Sorts of rows -/

/-- The sort makes the stable sort wherever the comparison is a total order. -/
def Sorter.Stable (sorter : Sorter) : Prop :=
  ∀ compare rows, TotalOn compare rows →
    ∃ sorted, sorter compare rows = some sorted ∧ SortedBy compare rows sorted

theorem Sorter.stable_insertion : insertion.Stable :=
  fun _ _ htotal => ⟨_, rfl, sortedBy_stableSort htotal⟩

/-- A stable sort does what sorting by insertion does. -/
theorem Sorter.Stable.eq_some_stableSort {sorter : Sorter} (h : sorter.Stable)
    {compare : Row → Row → Ordering} {rows : List Row} (htotal : TotalOn compare rows) :
    sorter compare rows = some (stableSort (fun row other => compare row other == .lt) rows) := by
  obtain ⟨sorted, hsorted, hby⟩ := h compare rows htotal
  rw [hsorted, hby.unique htotal (sortedBy_stableSort htotal)]

/-- What has to come before what is what compares as less. -/
theorem SortDirection.compare_beq_lt (direction : SortDirection) (v w : Value) :
    (direction.compare v w == .lt) = direction.before v w := by
  unfold compare before
  cases direction <;> cases v.compare? w with
  | none => rfl
  | some o => cases o <;> rfl

namespace Relation

variable {r : Relation} {key : SortKey} {sorter : Sorter}

/-- The column that the key names, if any, orders the rows totally. -/
def SortsTotally (r : Relation) (key : SortKey) : Prop :=
  ∀ i, position r.columns key.column = .ok i → TotalOn (key.compareAt i) r.rows

instance : Decidable (r.SortsTotally key) :=
  decidableForallOk _

theorem sortWith_eq_sort_of (h : ∀ i, position r.columns key.column = .ok i →
    sorter (key.compareAt i) r.rows =
      some (stableSort (fun row other => key.compareAt i row other == .lt) r.rows)) :
    r.sortWith sorter key = some (r.sort key) := by
  unfold sortWith sort
  cases hi : position r.columns key.column with
  | error e => rfl
  | ok i =>
      simp only [h i hi, Option.map_some, SortKey.compareAt, SortDirection.compare_beq_lt]
      rfl

/-- **Rows that are ordered totally are sorted alike by every stable sort.** -/
theorem sortWith_eq_sort (hstable : sorter.Stable) (h : r.SortsTotally key) :
    r.sortWith sorter key = some (r.sort key) :=
  sortWith_eq_sort_of fun i hi => hstable.eq_some_stableSort (h i hi)

theorem sortWith_insertion (r : Relation) (key : SortKey) :
    r.sortWith .insertion key = some (r.sort key) :=
  sortWith_eq_sort_of fun _ _ => rfl

end Relation

end RelStore
