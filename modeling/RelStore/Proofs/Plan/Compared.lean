import RelStore.Proofs.Plan.Filtered
import RelStore.Proofs.Value.Fraction

/-!
# Rows by their order to a literal

A literal is first cast to something that the values of the column are ordered among.  So every
value of the column that is not null is before the literal, with it or after it, and which of the
three it is decides all five comparisons.

| column | literal as compared with |
| --- | --- |
| `INT` | an integer, or a double with a fraction, which is a number |
| `TEXT` | a text |

This is also why "greater or equal" may be judged as "not less", and "less or equal" as "not
greater".  Columns of truth values are left out: they know equality only.
-/

namespace RelStore

/-! ## Values beside comparands -/

/-- Exactly one of "less", "equal" and "greater" holds of an order. -/
theorem Comparison.existsUnique_holds (o : Ordering) :
    ∃! comparison : Comparison,
      comparison ∈ [less, equal, greater] ∧ comparison.holds o = true := by
  cases o with
  | lt => exact ⟨less, by decide, by rintro (_ | _ | _ | _ | _) <;> decide⟩
  | eq => exact ⟨equal, by decide, by rintro (_ | _ | _ | _ | _) <;> decide⟩
  | gt => exact ⟨greater, by decide, by rintro (_ | _ | _ | _ | _) <;> decide⟩

theorem Comparison.greaterOrEqual_holds (o : Ordering) :
    greaterOrEqual.holds o = (greater.holds o || equal.holds o) := by
  cases o <;> rfl

theorem Comparison.lessOrEqual_holds (o : Ordering) :
    lessOrEqual.holds o = (less.holds o || equal.holds o) := by
  cases o <;> rfl

/-- The value is one of those that the values of a column are ordered among. -/
def ColumnType.Orders : ColumnType → Value → Prop
  | integer, .integer _ => True
  | integer, .float x => x.isFractional = true
  | text, .text _ => True
  | _, _ => False

/-- **A column is compared with something that its values are ordered among.** -/
theorem ColumnType.orders_of_castComparand {type : ColumnType} {literal comparand : Value}
    (htype : type ≠ boolean) (hliteral : literal ≠ .null)
    (h : type.castComparand literal = .ok comparand) : type.Orders comparand := by
  have hinteger : ∀ {i? : Except Error Int64}, i?.map Value.integer = .ok comparand →
      integer.Orders comparand := by
    intro i? hmap
    obtain ⟨i, -, rfl⟩ := map_eq_ok_iff.mp hmap
    trivial
  cases type with
  | boolean => contradiction
  | text =>
      cases literal with
      | null => contradiction
      | _ =>
          cases h
          trivial
  | integer =>
      cases literal with
      | null => contradiction
      | boolean b =>
          cases h
          trivial
      | integer i =>
          cases h
          trivial
      | float x =>
          unfold castComparand at h
          dsimp only at h
          split at h
          next hfractional =>
            cases h
            exact hfractional
          next => exact hinteger h
      | text s =>
          unfold castComparand at h
          dsimp only at h
          split at h
          next x hx =>
            cases h
            exact (Option.filter_eq_some_iff.mp hx).2
          next => exact hinteger h

namespace Value

variable {type : ColumnType} {v w : Value}

/-- **A value that is not null has an order to what its column is compared with**, and this decides
every comparison. -/
theorem exists_order (hv : type.Holds v) (hne : v ≠ null) (hw : type.Orders w) :
    ∃ o, ∀ comparison : Comparison, v.satisfies comparison w = comparison.holds o := by
  cases v with
  | null => contradiction
  | float x => cases type <;> exact hv.elim
  | boolean a =>
      cases type with
      | boolean => exact hw.elim
      | _ => exact hv.elim
  | text s =>
      cases type with
      | text =>
          cases w with
          | text t => exact ⟨compare s t, fun _ => rfl⟩
          | _ => exact hw.elim
      | _ => exact hv.elim
  | integer i =>
      cases type with
      | integer =>
          cases w with
          | integer j => exact ⟨compare i.toInt j.toInt, fun _ => rfl⟩
          | float x =>
              exact ⟨_, satisfies_integer_float i (Binary64.isNaN_of_isFractional hw)⟩
          | _ => exact hw.elim
      | _ => exact hv.elim

/-- A null is in no comparison to what a column is compared with. -/
theorem satisfies_null_left (hw : type.Orders w) (comparison : Comparison) :
    null.satisfies comparison w = false := by
  cases w with
  | null => cases type <;> exact hw.elim
  | _ => rfl

end Value

/-! ## The queries -/

namespace Query

/-- The query for the rows in which a column compares to a literal. -/
def comparisonQuery (source : TableReference) (column : String) (comparison : Comparison)
    (literal : Value) : Query :=
  rowsQuery source (some ⟨.and, [⟨.column column, comparison, literal⟩]⟩)

/-- **Comparisons split the rows of a table three ways.**  On the catalog that a run of statements
ends with, take a column of integers or texts and a literal that is not null, and let one of the
five queries for the rows in which the column compares to the literal succeed.  Then all five do,
and answer rows that they select in the table, in its order:

* a row with a null in the column is selected by none of them;
* any other row is selected by exactly one of "less", "equal" and "greater";
* "greater or equal" selects what "greater" and "equal" do, and "less or equal" what "less" and
  "equal" do. -/
theorem answer_comparisonQuery_split (statements : List String) {source : TableReference}
    {t : Table} (ht : (Session.executeAll ∅ statements).2.find source.name = .ok t)
    {column : String} {i : Nat} {definition : Column}
    (hi : position t.schema.columnNames column = .ok i)
    (hdefinition : t.schema.columns[i]? = some definition) (htype : definition.type ≠ .boolean)
    {literal : Value} (hliteral : literal ≠ .null) {comparison : Comparison} {r : Relation}
    (h : (comparisonQuery source column comparison literal).answer
      (Session.executeAll ∅ statements).2 = .ok r) :
    ∃ selected : Comparison → Row → Bool,
      (∀ comparison, (comparisonQuery source column comparison literal).answer
          (Session.executeAll ∅ statements).2 =
        .ok ⟨t.schema.columnNames, t.rows.filter (selected comparison)⟩) ∧
      ∀ row ∈ t.rows,
        (cellAt row i = .null → ∀ comparison, selected comparison row = false) ∧
        (cellAt row i ≠ .null → ∃! comparison : Comparison,
          comparison ∈ [.less, .equal, .greater] ∧ selected comparison row = true) ∧
        selected .greaterOrEqual row = (selected .greater row || selected .equal row) ∧
        selected .lessOrEqual row = (selected .less row || selected .equal row) := by
  have hc : (Session.executeAll ∅ statements).2.Valid := Catalog.valid_executeAll statements
  have hanswer : ∀ comparison, (comparisonQuery source column comparison literal).answer
      (Session.executeAll ∅ statements).2 =
        (definition.type.castComparand literal).map fun comparand => ⟨t.schema.columnNames,
          t.rows.filter fun row => (cellAt row i).satisfies comparison comparand⟩ :=
    fun comparison => (answer_filtered_table hc ht rfl).trans
      (Table.filter_comparison (hc.of_find ht) hi hdefinition .and comparison literal)
  -- the literal is cast in one way for all five
  obtain ⟨comparand, hcast, -⟩ := map_eq_ok_iff.mp ((hanswer comparison).symm.trans h)
  have horders := ColumnType.orders_of_castComparand htype hliteral hcast
  refine ⟨fun comparison row => (cellAt row i).satisfies comparison comparand,
    fun comparison => ?_, fun row hrow => ?_⟩
  · rw [hanswer, hcast]
    rfl
  · have hholds := ((hc.of_find ht).admits row hrow).holds_cellAt hdefinition
    dsimp only
    by_cases hnull : cellAt row i = .null
    · have hnone := Value.satisfies_null_left horders
      rw [hnull]
      exact ⟨fun _ => hnone, fun hne => absurd rfl hne, by simp only [hnone, Bool.or_self],
        by simp only [hnone, Bool.or_self]⟩
    · obtain ⟨o, ho⟩ := Value.exists_order hholds hnull horders
      simp only [ho]
      exact ⟨fun h => absurd h hnull, fun _ => Comparison.existsUnique_holds o,
        Comparison.greaterOrEqual_holds o, Comparison.lessOrEqual_holds o⟩

/-- Integers and a null on the sides of a fraction. -/
theorem answer_comparisonQuery_split_fraction :
    let c := (Session.executeAll ∅ ["CREATE TABLE t (a INT)", "INSERT INTO t (a) VALUES (2)",
      "INSERT INTO t (a) VALUES (null)", "INSERT INTO t (a) VALUES (1)"]).2
    let answer (comparison : Comparison) : Except Error Relation :=
      (comparisonQuery ⟨"t", some "u"⟩ "a" comparison (.text " 1.5")).answer c
    answer .less = .ok ⟨["a"], [[.integer 1]]⟩ ∧
      ∃ selected : Comparison → Row → Bool,
        (∀ comparison, answer comparison = .ok ⟨["a"],
          [[.integer 2], [.null], [.integer 1]].filter (selected comparison)⟩) ∧
        (∀ comparison, selected comparison [.null] = false) ∧
        ∃! comparison : Comparison, comparison ∈ [.less, .equal, .greater] ∧
          selected comparison [.integer 2] = true := by
  intro c answer
  let t : Table := ⟨⟨"t", [⟨"a", .integer⟩], none⟩, [[.integer 2], [.null], [.integer 1]]⟩
  have hc : c = ⟨.ofList [("t", t)]⟩ := by decide +kernel
  have ht : c.find "t" = .ok t := by
    rw [hc]
    rfl
  have hless : answer .less = .ok ⟨["a"], [[.integer 1]]⟩ := by
    show Query.answer c _ = _
    rw [hc]
    decide +kernel
  have hcolumn : t.schema.columns[0]? = some ⟨"a", .integer⟩ := rfl
  obtain ⟨selected, hanswer, hrows⟩ :=
    answer_comparisonQuery_split _ ht (by decide +kernel) hcolumn (by decide) (by decide) hless
  exact ⟨hless, selected, hanswer, (hrows [.null] (by decide)).1 rfl,
    (hrows [.integer 2] (by decide)).2.1 (by decide)⟩

end Query

end RelStore
