import RelStore.Proofs.Grammar.AcceptedQuery
import RelStore.Proofs.Plan.Proper

/-!
# No text fails internally

Reading a text, planning it and running its plan each fail in their own ways only.  What stands
between the parser, which refuses a star as the argument of other functions than counting and lists
of different lengths, and the stages that would fail on them is that a plan is proper if its
statement is well-formed.
-/

namespace RelStore

theorem Statement.neverInternal_parse (sql : String) : NeverInternal (parse sql) := by
  refine neverInternal_map _ ?_
  rw [Grammar.run_statement_eq]
  refine neverInternal_bind (Grammar.phrase_anyStatement.neverInternal _ _) fun read _ => ?_
  exact Grammar.neverInternal_atEnd _ _ _

namespace Session

theorem proper_of_plan {c : Catalog} {sql : String} {p : Plan} (h : plan c sql = .ok p) :
    p.Proper := by
  obtain ⟨s, hparse, hplan⟩ := bind_eq_ok_iff.mp h
  exact Plan.proper_ofStatement (Statement.wellFormed_of_parse hparse) hplan

/-- **No text is answered with an internal error**, whatever the catalog it is carried out on, and
what it is planned as asks of no stage what the stage cannot do. -/
theorem execute_ne_internal (c : Catalog) (sql : String) :
    (∀ cause, (execute c sql).1 ≠ .error (.internal cause)) ∧
      ∀ p, plan c sql = .ok p → p.Proper := by
  refine ⟨?_, fun p hp => proper_of_plan hp⟩
  show NeverInternal (execute c sql).1
  have hplan : NeverInternal (plan c sql) :=
    neverInternal_bind (Statement.neverInternal_parse sql) fun s _ =>
      Plan.neverInternal_ofStatement c s
  unfold execute
  split
  next p hp => exact (proper_of_plan hp).neverInternal_run c
  next e he => exact hplan.of_eq_error he

/-- A count of rows is planned next to a sum over a column; a sum without one is refused. -/
theorem execute_ne_internal_havingSum :
    let c := (executeAll ∅ ["CREATE TABLE t (a INT, b INT)"]).2
    let sql := "SELECT a, COUNT(*) FROM t GROUP BY a HAVING SUM(b) > 0"
    let p : Plan := .group (.scan "t") ["a"]
      [.column "a" "a", .aggregate ⟨.count, none⟩ "COUNT(*)"]
      (some ⟨.and, [⟨.aggregate ⟨.sum, some "b"⟩, .greater, .integer 0⟩]⟩)
      (.ofList [("a", .integer), ("b", .integer)])
    plan c sql = .ok p ∧ p.Proper ∧ (∀ cause, (execute c sql).1 ≠ .error (.internal cause)) ∧
      (execute c "SELECT SUM(*) FROM t").1 = .error (.malformed (.starArgument .sum)) := by
  intro c sql p
  have hplan : plan c sql = .ok p := by decide +kernel
  obtain ⟨hanswer, hproper⟩ := execute_ne_internal c sql
  exact ⟨hplan, hproper p hplan, hanswer, by decide +kernel⟩

end Session

end RelStore
