import RelStore.Proofs.Result
import RelStore.Relation.Join

/-!
# What a join's loops make

A join goes through the rows of the table for every row of the relation and keeps a flag for each
row of the table.  The rows it makes can be said without either: `joinRow` says which rows a row of
the relation yields, `unpartnered` which rows of the table are left over (`join_eq`).

The loops are followed step by step.  After the rows `seen`, they have the rows that those yield and
the flags say which rows of the table one of those matched (`JoinLoop.after`); one more row leads
from `after seen` to `after (seen ++ [row])` (`next_after`), so all rows lead to `after` all of them
(`foldl_next`).
-/

namespace RelStore

namespace Relation

/-- The rows of the table whose value at `j` is the row's value at `i`. -/
def partners (others : List Row) (i j : Nat) (row : Row) : List Row :=
  others.filter fun other => keysMatch (cellAt row i) (cellAt other j)

/-- The rows that a row of the relation yields. -/
def joinRow (others : List Row) (width : Nat) (keep : Bool) (i j : Nat) (row : Row) : List Row :=
  match partners others i j row with
  | [] => if keep then [row ++ nulls width] else []
  | found => found.map (row ++ ·)

/-- The rows of the table that no row of the relation is a partner of. -/
def unpartnered (rows others : List Row) (i j : Nat) : List Row :=
  others.filter fun other => !rows.any fun row => keysMatch (cellAt row i) (cellAt other j)

end Relation

namespace JoinLoop

open RelStore.Relation

variable {others : List Row} {width i j : Nat} {keep : Bool}

/-! ## One row -/

section Pair

variable {row other : Row}

theorem pair_of_keysMatch (h : keysMatch (cellAt row i) (cellAt other j) = true) (loop : JoinLoop)
    (found : Bool) (n : Nat) :
    pair i j row (loop, found) (other, n) =
      (⟨loop.rows ++ [row ++ other], loop.flags.set n true⟩, true) :=
  if_pos h

theorem pair_of_not_keysMatch (h : ¬ keysMatch (cellAt row i) (cellAt other j) = true)
    (state : JoinLoop × Bool) (n : Nat) : pair i j row state (other, n) = state :=
  if_neg h

end Pair

/-- The pairs of a row with the table's rows from a position on: the partners among these are joined
to it and flagged, the flags before the position stay. -/
theorem foldl_pair (others : List Row) (row : Row) (flag : Row → Bool) (joined : List Row)
    (before : List Bool) (found : Bool) :
    (others.zipIdx before.length).foldl (pair i j row)
        (⟨joined, before ++ others.map flag⟩, found) =
      (⟨joined ++ (partners others i j row).map (row ++ ·),
        before ++ others.map fun other => flag other || keysMatch (cellAt row i) (cellAt other j)⟩,
        found || !(partners others i j row).isEmpty) := by
  unfold partners
  induction others generalizing joined before found with
  | nil => simp
  | cons other others ih =>
      -- the flag of the first row is the first one that is not before the position
      have hsnoc : ∀ b : Bool, before.length + 1 = (before ++ [b]).length := by simp
      have hflags : ∀ b : Bool,
          before ++ b :: others.map flag = (before ++ [b]) ++ others.map flag := by simp
      rw [List.zipIdx_cons, List.foldl_cons]
      by_cases hmatch : keysMatch (cellAt row i) (cellAt other j) = true
      · have hset : (before ++ (other :: others).map flag).set before.length true =
            (before ++ [true]) ++ others.map flag := by simp
        rw [pair_of_keysMatch hmatch, hset, hsnoc true, ih]
        simp [hmatch]
      · rw [pair_of_not_keysMatch hmatch, List.map_cons, hflags, hsnoc (flag other), ih]
        simp [hmatch]

/-! ## All rows -/

/-- Where the join stands after some rows of the relation. -/
def after (others : List Row) (width : Nat) (keep : Bool) (i j : Nat) (seen : List Row) :
    JoinLoop where
  rows := seen.flatMap (joinRow others width keep i j)
  flags := others.map fun other => seen.any fun row => keysMatch (cellAt row i) (cellAt other j)

theorem next_after (seen : List Row) (row : Row) :
    next others width keep i j (after others width keep i j seen) row =
      after others width keep i j (seen ++ [row]) := by
  unfold next after
  let flag (other : Row) : Bool := seen.any fun row => keysMatch (cellAt row i) (cellAt other j)
  have hpairs : others.zipIdx.foldl (pair i j row)
      (⟨seen.flatMap (joinRow others width keep i j), others.map flag⟩, false) = _ :=
    foldl_pair others row flag _ [] false
  rw [hpairs]
  simp only [flag, List.nil_append, List.flatMap_append, List.flatMap_singleton, List.any_append,
    List.any_cons, List.any_nil, Bool.or_false, Bool.false_or]
  unfold joinRow
  cases partners others i j row with
  | nil => cases keep <;> simp
  | cons partner rest => simp

theorem foldl_next (rows seen : List Row) :
    rows.foldl (next others width keep i j) (after others width keep i j seen) =
      after others width keep i j (seen ++ rows) := by
  induction rows generalizing seen with
  | nil => simp
  | cons row rows ih =>
      rw [List.foldl_cons, next_after, ih, List.append_assoc, List.singleton_append]

/-- The rows without a flag are those without a partner. -/
theorem map_filter_zip_flags (rows : List Row) (pad : Row) :
    ((others.zip (after others width keep i j rows).flags).filter (!·.2)).map (pad ++ ·.1) =
      (unpartnered rows others i j).map (pad ++ ·) := by
  unfold after unpartnered
  induction others with
  | nil => rfl
  | cons other others ih =>
      simp only [List.map_cons, List.zip_cons_cons, List.filter_cons]
      split
      · rw [List.map_cons, List.map_cons, ih]
      · exact ih

end JoinLoop

/-- **A join's rows are what each row of the relation yields and what is left of the table.** -/
theorem Relation.join_eq (r : Relation) (t : Table) (kind : JoinKind)
    (left right qualifier : String) :
    r.join t kind left right qualifier = (do
      let columns := t.schema.columnNames
      let i ← position r.columns left
      let j ← position columns (stripQualifier qualifier right)
      let joined := r.rows.flatMap (joinRow t.rows columns.length kind.keepsLeft i j)
      let rest := if kind.keepsRight then
          (unpartnered r.rows t.rows i j).map (nulls r.columns.length ++ ·)
        else []
      return ⟨r.columns ++ columns.map (qualify qualifier), joined ++ rest⟩) := by
  unfold join
  refine bind_congr fun i => bind_congr fun j => ?_
  -- before the first row no flag is set
  have hloop : r.rows.foldl
      (JoinLoop.next t.rows t.schema.columnNames.length kind.keepsLeft i j)
      ⟨[], t.rows.map fun _ => false⟩ =
        JoinLoop.after t.rows t.schema.columnNames.length kind.keepsLeft i j r.rows :=
    JoinLoop.foldl_next r.rows []
  simp only [hloop, JoinLoop.map_filter_zip_flags]
  rfl

end RelStore
