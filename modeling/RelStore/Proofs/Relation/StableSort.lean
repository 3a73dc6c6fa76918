import RelStore.Proofs.Occurrence
import RelStore.Proofs.Result
import RelStore.Proofs.Value.Ordered
import RelStore.Relation.Sort

/-!
# Stable sorting

A list is the stable sort of another by a key when it has the same elements, their keys are in
order, and elements of one key stand as they stood (`StablySorted`).  There is only one such list,
because elements of one place in the order have one key (`StablySorted.unique`).

So what is done to a list may be done before it is sorted or after it, if it leaves keys in order
and goes by keys: keeping the first of all that agree on more than the key is such a thing
(`StablySorted.firstBy`).

`stableSort` puts every element behind those that it does not have to come before.  It makes the
stable sort wherever "has to come before" is the strict side of an order, as it is for the values
of a column (`SortDirection.before_iff`).
-/

namespace RelStore

universe u v w

variable {α : Type u} {β : Type v} {γ : Type w}

/-- Lists in order that agree on the elements of each place in it are the same. -/
theorem eq_of_filter_same {le : α → α → Prop} (same : α → α → Bool) {l sorted other : List α}
    (hsub : sorted ⊆ l) (hsubOther : other ⊆ l) (hself : ∀ a ∈ l, same a a = true)
    (hsame : ∀ a ∈ l, ∀ b ∈ l, le a b → le b a → same a b = true)
    (hsorted : sorted.Pairwise le) (hother : other.Pairwise le)
    (h : ∀ a ∈ l, sorted.filter (same a) = other.filter (same a)) : sorted = other := by
  induction sorted generalizing other with
  | nil =>
      cases other with
      | nil => rfl
      | cons b other =>
          obtain ⟨hb, -⟩ := List.cons_subset.mp hsubOther
          simpa [hself b hb] using h b hb
  | cons a sorted ih =>
      obtain ⟨ha, hsubRest⟩ := List.cons_subset.mp hsub
      cases other with
      | nil => simpa [hself a ha] using h a ha
      | cons b other =>
          obtain ⟨hb, hsubOtherRest⟩ := List.cons_subset.mp hsubOther
          obtain ⟨hfirst, hsortedRest⟩ := List.pairwise_cons.mp hsorted
          obtain ⟨hfirstOther, hotherRest⟩ := List.pairwise_cons.mp hother
          have hmem : ∀ c ∈ l, c ∈ a :: sorted ↔ c ∈ b :: other := fun c hc => by
            have hc' := congrArg (c ∈ ·) (h c hc)
            simpa only [List.mem_filter, hself c hc, and_true, eq_iff_iff] using hc'
          -- neither head stands after the other
          have hheads : same a b = true := by
            rcases List.mem_cons.mp ((hmem a ha).mp List.mem_cons_self) with rfl | ha'
            · exact hself a ha
            · rcases List.mem_cons.mp ((hmem b hb).mpr List.mem_cons_self) with rfl | hb'
              · exact hself b hb
              · exact hsame a ha b hb (hfirst b hb') (hfirstOther a ha')
          have hfilter := h a ha
          rw [List.filter_cons_of_pos (hself a ha), List.filter_cons_of_pos hheads] at hfilter
          obtain ⟨rfl, -⟩ := List.cons.inj hfilter
          refine congrArg (a :: ·) (ih hsubRest hsubOtherRest hsortedRest hotherRest ?_)
          intro c hc
          have hrest := h c hc
          rw [List.filter_cons, List.filter_cons] at hrest
          split at hrest
          · exact (List.cons.inj hrest).2
          · exact hrest

/-- The second list has the elements of the first in the order of their keys, and elements of one
key in the order they had. -/
structure StablySorted [DecidableEq β] (le : β → β → Prop) (key : α → β) (l sorted : List α) :
    Prop where
  perm : sorted.Perm l
  ordered : sorted.Pairwise fun a b => le (key a) (key b)
  stable : ∀ k, (sorted.filter fun a => key a = k) = l.filter fun a => key a = k

namespace StablySorted

variable [DecidableEq β] {le : β → β → Prop} {key : α → β} {l sorted other : List α}

/-- **A list has one stable sort.** -/
theorem unique (hle : ∀ j k, le j k → le k j → j = k) (h : StablySorted le key l sorted)
    (hother : StablySorted le key l other) : sorted = other := by
  refine eq_of_filter_same (fun a b => decide (key b = key a)) h.perm.subset hother.perm.subset
    (fun a _ => by simp) ?_ h.ordered hother.ordered
    fun a _ => (h.stable (key a)).trans (hother.stable (key a)).symm
  intro a _ b _ hab hba
  simpa using (hle _ _ hab hba).symm

/-- Elements under new names are sorted as they were, if the names tell the keys. -/
theorem map {key' : γ → β} {f : α → γ} (h : StablySorted le key l sorted)
    (hkey : ∀ a ∈ l, key' (f a) = key a) : StablySorted le key' (l.map f) (sorted.map f) := by
  have hsorted : ∀ a ∈ sorted, key' (f a) = key a := fun a ha => hkey a (h.perm.mem_iff.mp ha)
  refine ⟨h.perm.map f, ?_, fun k => ?_⟩
  · rw [List.pairwise_map]
    refine h.ordered.imp_of_mem fun {a b} ha hb hab => ?_
    rw [hsorted a ha, hsorted b hb]
    exact hab
  · have hfilter : ∀ {rows : List α}, (∀ a ∈ rows, key' (f a) = key a) →
        ((rows.map f).filter fun c => key' c = k) = (rows.filter fun a => key a = k).map f := by
      intro rows hrows
      rw [List.filter_map]
      refine congrArg (List.map f) (List.filter_congr fun a ha => ?_)
      rw [Function.comp_apply, hrows a ha]
    rw [hfilter hsorted, hfilter hkey, h.stable]

theorem congr {key' : α → β} (h : StablySorted le key l sorted) (hkey : ∀ a ∈ l, key' a = key a) :
    StablySorted le key' l sorted := by
  simpa using h.map (f := id) hkey

/-- Lists that agree on the elements of each key have the same elements. -/
theorem perm_of_filter_eq
    (h : ∀ k, (sorted.filter fun a => key a = k) = l.filter fun a => key a = k) :
    sorted.Perm l := by
  classical
  refine List.perm_iff_count.mpr fun a => ?_
  have hcount : ∀ rows : List α, rows.count a = (rows.filter fun b => key b = key a).count a :=
    fun rows => (List.count_filter (by simp)).symm
  rw [hcount sorted, hcount l, h]

/-- **The first elements of each combination are sorted as they are among all**, if the
combination tells the key. -/
theorem firstBy [DecidableEq γ] (combination : α → γ) (toKey : γ → β)
    (h : StablySorted le (fun a => toKey (combination a)) l sorted) :
    StablySorted le (fun a => toKey (combination a)) (firstBy combination l)
      (RelStore.firstBy combination sorted) := by
  have hstable : ∀ k,
      ((RelStore.firstBy combination sorted).filter fun a => toKey (combination a) = k) =
        (RelStore.firstBy combination l).filter fun a => toKey (combination a) = k := by
    intro k
    have hkey := firstBy_filter combination fun c => decide (toKey c = k)
    rw [← hkey, ← hkey, h.stable k]
  exact ⟨perm_of_filter_eq hstable, h.ordered.sublist (firstBy_sublist _ _), hstable⟩

end StablySorted

/-! ## Sorting by insertion -/

section Insertion

variable {before : α → α → Bool} {le : α → α → Prop}

/-- An element is put among those that it need not pass as the last one that came. -/
theorem filter_insertFromEnd {p : α → Bool} {a : α} {l : List α}
    (hbefore : ∀ b ∈ l, before a b = true → p a = true → p b = false) :
    (insertFromEnd before a l).filter p = (a :: l).filter p := by
  induction l with
  | nil => rfl
  | cons b l ih =>
      obtain ⟨hb, hrest⟩ := List.forall_mem_cons.mp hbefore
      unfold insertFromEnd
      split
      next hpass =>
        rw [List.filter_cons, ih hrest]
        -- not both of them are looked for
        by_cases ha : p a = true
        · simp [ha, hb hpass ha]
        · simp [ha, List.filter_cons]
      next => rfl

/-- Elements none of which has to come before another keep their order. -/
theorem filter_stableSort {p : α → Bool} {l : List α}
    (hbefore : ∀ a ∈ l, ∀ b ∈ l, before a b = true → p a = true → p b = false) :
    (stableSort before l).filter p = l.filter p := by
  have hfold : ∀ rest sorted : List α, rest ⊆ l → sorted ⊆ l →
      (rest.foldl (fun sorted a => insertFromEnd before a sorted) sorted).filter p =
        (rest.reverse ++ sorted).filter p := by
    intro rest
    induction rest with
    | nil => exact fun sorted _ _ => rfl
    | cons a rest ih =>
        intro sorted hrest hsorted
        obtain ⟨ha, hrest⟩ := List.cons_subset.mp hrest
        have hinserted : insertFromEnd before a sorted ⊆ l :=
          List.Subset.trans (insertFromEnd_perm before a sorted).subset
            (List.cons_subset.mpr ⟨ha, hsorted⟩)
        rw [List.foldl_cons, ih _ hrest hinserted, List.filter_append,
          filter_insertFromEnd fun b hb => hbefore a ha b (hsorted hb), ← List.filter_append,
          List.reverse_cons, List.append_assoc, List.singleton_append]
  unfold stableSort
  rw [List.filter_reverse, hfold l [] (List.Subset.refl l) (List.nil_subset l), List.append_nil,
    ← List.filter_reverse, List.reverse_reverse]

/-- An element is put where the order wants it into a list that is in order, given last element
first. -/
theorem pairwise_insertFromEnd {a : α} {l : List α}
    (htrans : ∀ b ∈ l, ∀ c ∈ l, le c b → le b a → le c a)
    (hbefore : ∀ b ∈ l, before a b = true → le a b)
    (hafter : ∀ b ∈ l, before a b = false → le b a) (hl : l.Pairwise fun b c => le c b) :
    (insertFromEnd before a l).Pairwise fun b c => le c b := by
  induction l with
  | nil => simp [insertFromEnd]
  | cons b l ih =>
      obtain ⟨hb, hrest⟩ := List.pairwise_cons.mp hl
      obtain ⟨hbeforeHead, hbeforeRest⟩ := List.forall_mem_cons.mp hbefore
      obtain ⟨hafterHead, hafterRest⟩ := List.forall_mem_cons.mp hafter
      unfold insertFromEnd
      split
      next hpass =>
        have htransRest : ∀ c ∈ l, ∀ d ∈ l, le d c → le c a → le d a := fun c hc d hd =>
          htrans c (List.mem_cons_of_mem b hc) d (List.mem_cons_of_mem b hd)
        refine List.pairwise_cons.mpr ⟨fun c hc => ?_, ih htransRest hbeforeRest hafterRest hrest⟩
        rcases List.mem_cons.mp ((insertFromEnd_perm before a l).mem_iff.mp hc) with rfl | hc
        · exact hbeforeHead hpass
        · exact hb c hc
      next hstop =>
        have hba : le b a := hafterHead (by simpa using hstop)
        refine List.pairwise_cons.mpr ⟨fun c hc => ?_, hl⟩
        rcases List.mem_cons.mp hc with rfl | hc
        · exact hba
        · exact htrans b List.mem_cons_self c (List.mem_cons_of_mem b hc) (hb c hc) hba

/-- Elements stand in an order of which "has to come before" is the strict side. -/
theorem pairwise_stableSort {l : List α}
    (htrans : ∀ a ∈ l, ∀ b ∈ l, ∀ c ∈ l, le a b → le b c → le a c)
    (hbefore : ∀ a ∈ l, ∀ b ∈ l, before a b = true → le a b)
    (hafter : ∀ a ∈ l, ∀ b ∈ l, before a b = false → le b a) :
    (stableSort before l).Pairwise le := by
  have hfold : ∀ rest sorted : List α, rest ⊆ l → sorted ⊆ l →
      (sorted.Pairwise fun a b => le b a) →
      (rest.foldl (fun sorted a => insertFromEnd before a sorted) sorted).Pairwise
        fun a b => le b a := by
    intro rest
    induction rest with
    | nil => exact fun sorted _ _ h => h
    | cons a rest ih =>
        intro sorted hrest hsorted h
        obtain ⟨ha, hrest⟩ := List.cons_subset.mp hrest
        refine ih _ hrest ?_ ?_
        · exact List.Subset.trans (insertFromEnd_perm before a sorted).subset
            (List.cons_subset.mpr ⟨ha, hsorted⟩)
        · exact pairwise_insertFromEnd
            (fun b hb c hc => htrans c (hsorted hc) b (hsorted hb) a ha)
            (fun b hb => hbefore a ha b (hsorted hb)) (fun b hb => hafter a ha b (hsorted hb)) h
  unfold stableSort
  rw [List.pairwise_reverse]
  exact hfold l [] (List.Subset.refl l) (List.nil_subset l) .nil

end Insertion

/-! ## Sorting by a column -/

namespace SortDirection

/-- The first value stands before the second or with it in the direction. -/
def Precedes (direction : SortDirection) (v w : Value) : Prop :=
  match direction with
  | ascending => v.AtMost w
  | descending => w.AtMost v

variable {direction : SortDirection} {type : ColumnType} {u v w : Value}

theorem Precedes.trans (huv : direction.Precedes u v) (hvw : direction.Precedes v w) :
    direction.Precedes u w := by
  cases direction with
  | ascending => exact Value.AtMost.trans huv hvw
  | descending => exact Value.AtMost.trans hvw huv

theorem Precedes.antisymm (hvw : direction.Precedes v w) (hwv : direction.Precedes w v) :
    v = w := by
  cases direction with
  | ascending => exact Value.AtMost.antisymm hvw hwv
  | descending => exact Value.AtMost.antisymm hwv hvw

theorem precedes_total (hv : type.Holds v) (hw : type.Holds w) :
    direction.Precedes v w ∨ direction.Precedes w v := by
  cases direction with
  | ascending => exact Value.atMost_total hv hw
  | descending => exact Value.atMost_total hw hv

/-- Of two values of one column the first has to come before the second just if the second does not
stand before it or with it. -/
theorem before_iff (hv : type.Holds v) (hw : type.Holds w) :
    direction.before v w = true ↔ ¬ direction.Precedes w v := by
  cases direction with
  | ascending => exact beq_iff_eq.trans (Value.compare?_eq_lt_iff hv hw)
  | descending => exact beq_iff_eq.trans (Value.compare?_eq_gt_iff hv hw)

/-- No value has to come before itself, of whatever kind it is. -/
theorem ne_of_before (h : direction.before v w = true) : v ≠ w := by
  rintro rfl
  cases direction <;> cases v <;>
    simp [before, Value.compare?, Binary64.compare?] at h

end SortDirection

namespace Relation

variable {r sorted : Relation} {key : SortKey}

/-- **A relation is sorted by the column that the name means**, and keeps its columns. -/
theorem sort_eq_ok_iff : r.sort key = .ok sorted ↔
    ∃ i, position r.columns key.column = .ok i ∧
      { r with rows := stableSort (fun row other =>
        key.direction.before (cellAt row i) (cellAt other i)) r.rows } = sorted := by
  unfold sort
  simp only [bind_eq_ok_iff, pure, Except.pure, Except.ok.injEq]

end Relation

/-- **Rows are sorted stably by a column of which every value is null or of one kind.** -/
theorem stablySorted_stableSort (direction : SortDirection) {type : ColumnType} {i : Nat}
    {rows : List Row} (hholds : ∀ row ∈ rows, type.Holds (cellAt row i)) :
    StablySorted direction.Precedes (cellAt · i) rows
      (stableSort (fun row other => direction.before (cellAt row i) (cellAt other i)) rows) := by
  refine ⟨stableSort_perm _ _, pairwise_stableSort (fun _ _ _ _ _ _ => .trans) ?_ ?_,
    fun k => filter_stableSort ?_⟩
  · intro row hrow other hother hbefore
    have hnot := (SortDirection.before_iff (hholds row hrow) (hholds other hother)).mp hbefore
    exact (SortDirection.precedes_total (hholds row hrow) (hholds other hother)).resolve_right hnot
  · intro row hrow other hother hbefore
    by_contra hnot
    rw [(SortDirection.before_iff (hholds row hrow) (hholds other hother)).mpr hnot] at hbefore
    contradiction
  · intro row _ other _ hbefore hrow
    have hne : cellAt row i ≠ cellAt other i := SortDirection.ne_of_before hbefore
    rw [decide_eq_true_eq] at hrow
    exact decide_eq_false fun hother => hne (hrow.trans hother.symm)

end RelStore
