import RelStore.Proofs.Plan.Answer

/-!
# Pages of an answer

A query is cut below its projection, but above every stage that goes by more than one row: its rows
have been joined, filtered, grouped, made distinct and sorted when the first of them are skipped.
The projection that is left takes row by row, and looks its names up whether there are rows or not.
So a query that is cut answers a slice of what it answers whole, and fails as it fails whole
(`answer_limit_offset`).

| step | the slice of its rows is | lemma |
| --- | --- | --- |
| arranging | what is left of them in the end | `arrange_slice` |
| projecting | projected as the rows are | `project_slice` |

Slices of one length that follow one another are the rows in pieces (`flatMap_slices`).
-/

namespace RelStore

/-- The first `size` rows behind the first `n`, for every `n` that is a multiple of `size`, are the
rows in pieces. -/
theorem flatMap_slices {α : Type} (l : List α) (size n : Nat) :
    ((List.range n).flatMap fun k => (l.drop (k * size)).take size) = l.take (n * size) := by
  induction n with
  | zero => rw [Nat.zero_mul]; rfl
  | succ n ih =>
      rw [List.range_succ, List.flatMap_append, ih, List.flatMap_singleton, Nat.succ_mul,
        List.take_add]

namespace Relation

/-- The rows behind the first `offset`, and of these at most `limit`; where there is no count, none
are left out. -/
def slice (limit offset : Option UInt64) (r : Relation) : Relation :=
  let rest := r.rows.drop (offset.elim 0 (·.toNat))
  { r with rows := limit.elim rest fun count => rest.take count.toNat }

/-- Rows are projected one by one. -/
theorem project_slice (limit offset : Option UInt64) (r : Relation) (items : List SelectItem) :
    (r.slice limit offset).project items = (r.project items).map (slice limit offset) := by
  unfold project
  show (items.mapM (selectedColumns r.columns) >>= _) = _
  cases items.mapM (selectedColumns r.columns) with
  | error e => rfl
  | ok selected =>
      refine congrArg (fun rows => Except.ok (Relation.mk _ rows)) ?_
      unfold slice
      cases limit <;> simp [List.map_take, List.map_drop]

end Relation

namespace Query

variable {q : Query}

/-- A query that is cut arranges its rows as if it were not, and keeps a slice of them. -/
theorem arrange_slice (q : Query) (limit offset : Option UInt64)
    (distinctOn : Option (List String)) (orderBy : Option SortKey) (r : Relation) :
    { q with limit, offset }.arrange distinctOn orderBy r =
      ({ q with limit := none, offset := none }.arrange distinctOn orderBy r).map
        (Relation.slice limit offset) := by
  unfold arrange
  dsimp only
  cases (if q.distinct then r.distinct distinctOn else .ok r) with
  | error e => rfl
  | ok kept =>
      rw [ok_bind, ok_bind]
      cases orderBy.elim (.ok kept) kept.sort with
      | error e => rfl
      | ok sorted => cases limit <;> cases offset <;> rfl

/-- **What a query presents when it is cut is a slice of what it presents.** -/
theorem present_slice (q : Query) (limit offset : Option UInt64) (types : ColumnTypes)
    (r : Relation) :
    { q with limit, offset }.present types r =
      ({ q with limit := none, offset := none }.present types r).map
        (Relation.slice limit offset) := by
  have hproject : ∀ arranged : Relation,
      (q.presentation types).project (arranged.slice limit offset) =
        ((q.presentation types).project arranged).map (Relation.slice limit offset) := by
    intro arranged
    unfold presentation
    split
    · rfl
    · split
      · exact arranged.project_slice limit offset q.items
      · rfl
  -- cutting changes nothing in how the rows are presented
  show ((q.presentation types).base r >>= fun base =>
      { q with limit, offset }.arrange (q.presentation types).distinctOn
        (q.orderBy.map (Plan.renameKey (q.presentation types).rename)) base >>=
        (q.presentation types).project) =
    ((q.presentation types).base r >>= fun base =>
      { q with limit := none, offset := none }.arrange (q.presentation types).distinctOn
        (q.orderBy.map (Plan.renameKey (q.presentation types).rename)) base >>=
        (q.presentation types).project).map (Relation.slice limit offset)
  cases (q.presentation types).base r with
  | error e => rfl
  | ok base =>
      rw [ok_bind, ok_bind, arrange_slice]
      cases { q with limit := none, offset := none }.arrange (q.presentation types).distinctOn
          (q.orderBy.map (Plan.renameKey (q.presentation types).rename)) base with
      | error e => rfl
      | ok arranged => exact hproject arranged

/-- **To cut a query is to cut its answer.**  A query that does not aggregate everything answers,
with a limit or an offset or both, the slice of the rows that it answers without them, in the same
columns, and fails with the same error just if it fails without them.  So its pages of one size, as
many as its rows need, are its rows in pieces, if the offsets of the pages can be counted. -/
theorem answer_limit_offset (c : Catalog) (hq : ¬ q.AggregatesAll) :
    let whole := { q with limit := none, offset := none }.answer c
    (∀ limit offset,
      { q with limit, offset }.answer c = whole.map (Relation.slice limit offset)) ∧
    ∀ r, whole = .ok r → ∀ (size : UInt64) (n : Nat), (∀ k < n, k * size.toNat < UInt64.size) →
      r.rows.length ≤ n * size.toNat →
      ∃ pages, (List.range n).mapM (fun k =>
          { q with limit := some size, offset := some (.ofNat (k * size.toNat)) }.answer c) =
            .ok pages ∧
        (∀ page ∈ pages, page.columns = r.columns) ∧ pages.flatMap (·.rows) = r.rows := by
  intro whole
  have hslice : ∀ limit offset,
      { q with limit, offset }.answer c = whole.map (Relation.slice limit offset) := by
    intro limit offset
    have hcut : ¬ { q with limit, offset }.AggregatesAll := hq
    have hwhole : ¬ { q with limit := none, offset := none }.AggregatesAll := hq
    show _ = ({ q with limit := none, offset := none }.answer c).map _
    rw [answer_eq_bind hcut, answer_eq_bind hwhole]
    -- the rows that are selected do not depend on how they are cut
    show (q.select c >>= _) = (q.select c >>= _).map _
    cases q.select c with
    | error e => rfl
    | ok selected => exact q.present_slice limit offset selected.1 selected.2
  refine ⟨hslice, fun r hr size n hoffsets hlength => ?_⟩
  let page (k : Nat) : Relation :=
    { r with rows := (r.rows.drop (k * size.toNat)).take size.toNat }
  refine ⟨(List.range n).map page, mapM_eq_ok_map fun k hk => ?_, ?_, ?_⟩
  · have hoffset : (UInt64.ofNat (k * size.toNat)).toNat = k * size.toNat :=
      UInt64.toNat_ofNat_of_lt' (hoffsets k (List.mem_range.mp hk))
    rw [hslice, hr]
    show Except.ok (Relation.mk r.columns ((r.rows.drop (UInt64.ofNat _).toNat).take _)) = _
    rw [hoffset]
  · simp [page]
  · calc ((List.range n).map page).flatMap (·.rows)
        = (List.range n).flatMap fun k => (r.rows.drop (k * size.toNat)).take size.toNat := by
          rw [List.flatMap_map]
      _ = r.rows.take (n * size.toNat) := flatMap_slices r.rows size.toNat n
      _ = r.rows := List.take_of_length_le hlength

/-- A sorted column under another name, without its first row, and in two pages of two rows of which
the second is not full. -/
theorem answer_limit_offset_twoPages :
    let statements := ["CREATE TABLE t (a INT, b TEXT)", "INSERT INTO t (a, b) VALUES (2, 'x')",
      "INSERT INTO t (a, b) VALUES (3, 'y')", "INSERT INTO t (a, b) VALUES (null, 'z')"]
    let c := (Session.executeAll ∅ statements).2
    let q : Query :=
      { distinct := false, items := [.column "b" "c"], source := ⟨"t", none⟩, joins := []
        filter := none, groupBy := none, having := none, orderBy := some ⟨"a", .descending⟩
        limit := none, offset := none }
    ¬ q.AggregatesAll ∧
      { q with limit := some 1, offset := some 1 }.answer c = .ok ⟨["c"], [[.text "x"]]⟩ ∧
      ∃ pages, (List.range 2).mapM (fun k =>
          { q with limit := some 2, offset := some (.ofNat (k * 2)) }.answer c) = .ok pages ∧
        pages.flatMap (·.rows) = [[.text "y"], [.text "x"], [.text "z"]] := by
  intro statements c q
  have hc : c = ⟨.ofList [("t", ⟨⟨"t", [⟨"a", .integer⟩, ⟨"b", .text⟩], none⟩,
      [[.integer 2, .text "x"], [.integer 3, .text "y"], [.null, .text "z"]]⟩)]⟩ := by
    decide +kernel
  have hq : ¬ q.AggregatesAll := fun h => Bool.false_ne_true h.2
  have hwhole : { q with limit := none, offset := none }.answer c =
      .ok ⟨["c"], [[.text "y"], [.text "x"], [.text "z"]]⟩ := by
    rw [hc]
    rfl
  obtain ⟨hslice, hpages⟩ := answer_limit_offset c hq
  obtain ⟨pages, hmapM, -, hrows⟩ := hpages _ hwhole 2 2 (by decide) (by decide)
  refine ⟨hq, ?_, pages, hmapM, hrows⟩
  rw [hslice, hwhole]
  rfl

end Query

end RelStore
