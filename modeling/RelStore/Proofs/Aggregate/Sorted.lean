import RelStore.Proofs.Aggregate.RollUp

/-!
# Extremes of sorted values

An extreme is found in one pass that keeps the value that no later one beats; a sort puts the values
of a column in the order of the direction, nulls among them.  Both end with the first value that is
not null (`IsFirst`), and there is only one such value (`IsFirst.unique`):

| direction | nulls in the order | first value that is not null |
| --- | --- | --- |
| ascending | before all others | the least |
| descending | behind all others | the greatest |

So the extreme of a column is the first value of the sorted column that is not null
(`fold_extreme_eq_firstNonNull`).
-/

namespace RelStore

/-- The first of the values that is not null; a null if there is none. -/
def firstNonNull (values : List Value) : Value :=
  (values.find? fun v => !v.isNull).getD .null

section First

variable {direction : SortDirection} {type : ColumnType} {values values' : List Value}
  {v v' : Value}

theorem IsFirst.eq_null_iff (h : IsFirst direction values v) :
    v = .null ↔ ∀ w ∈ values, w = .null := by
  rcases h with ⟨hv, hall⟩ | ⟨hv, hmem, -⟩
  · exact iff_of_true hv hall
  · exact iff_of_false hv fun hall => hv (hall v hmem)

/-- **There is one first value**, and it depends only on which values are there besides nulls. -/
theorem IsFirst.unique (hsame : ∀ w, w ≠ .null → (w ∈ values ↔ w ∈ values'))
    (h : IsFirst direction values v) (h' : IsFirst direction values' v') : v = v' := by
  rcases h with ⟨rfl, hall⟩ | ⟨hv, hmem, hfirst⟩
  · refine (h'.eq_null_iff.mpr fun w hw => ?_).symm
    by_contra hne
    exact hne (hall w ((hsame w hne).mpr hw))
  · have hmem' : v ∈ values' := (hsame v hv).mp hmem
    obtain ⟨hv', hmemFirst, hfirst'⟩ := h'.resolve_left fun h => hv (h.2 v hmem')
    exact (hfirst v' ((hsame v' hv').mpr hmemFirst) hv').antisymm (hfirst' v hmem' hv)

/-- Values in order have their first value in front of all others that are not null. -/
theorem isFirst_firstNonNull (hholds : ∀ v ∈ values, type.Holds v)
    (hsorted : values.Pairwise direction.Precedes) :
    IsFirst direction values (firstNonNull values) := by
  unfold firstNonNull
  cases hfind : values.find? fun v => !v.isNull with
  | none => exact .inl ⟨rfl, by simpa using List.find?_eq_none.mp hfind⟩
  | some v =>
      obtain ⟨hnull, before, after, rfl, hbefore⟩ := List.find?_eq_some_iff_append.mp hfind
      have hmem : v ∈ before ++ v :: after := List.mem_append_right _ List.mem_cons_self
      obtain ⟨-, hsorted, -⟩ := List.pairwise_append.mp hsorted
      refine .inr ⟨by simpa using hnull, hmem, fun w hw hne => ?_⟩
      rcases List.mem_append.mp hw with hw | hw
      · exact absurd (by simpa using hbefore w hw) hne
      · rcases List.mem_cons.mp hw with rfl | hw
        · exact (SortDirection.precedes_total (hholds w hmem) (hholds w hmem)).elim id id
        · exact (List.pairwise_cons.mp hsorted).1 w hw

end First

/-- **The extreme of a column is the first of its sorted values that is not null.** -/
theorem SortDirection.fold_extreme_eq_firstNonNull {direction : SortDirection} {type : ColumnType}
    {i : Nat} {rows sorted : List Row} (hholds : ∀ row ∈ rows, type.Holds (cellAt row i))
    (h : StablySorted direction.Precedes (cellAt · i) rows sorted) :
    direction.extreme.fold (some i) rows = .ok (firstNonNull (sorted.map (cellAt · i))) := by
  obtain ⟨v, hfold, hfirst⟩ := direction.exists_fold_extreme hholds
  have hvalues : ∀ v ∈ sorted.map (cellAt · i), type.Holds v :=
    List.forall_mem_map.mpr fun row hrow => hholds row (h.perm.mem_iff.mp hrow)
  have hfirstSorted := isFirst_firstNonNull hvalues (List.pairwise_map.mpr h.ordered)
  have hsame : ∀ w, w ≠ .null → (w ∈ nonNullAt i rows ↔ w ∈ sorted.map (cellAt · i)) := by
    intro w hw
    simp [nonNullAt, h.perm.mem_iff, hw]
  rw [hfold, hfirst.unique hsame hfirstSorted]

end RelStore
