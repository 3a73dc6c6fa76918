import Mathlib.Data.String.Basic
import Mathlib.Order.Compare
import RelStore.Value.Cast
import RelStore.Value.Order

/-!
# The order of stored values

Values that one column may hold stand in a line: the null first, then truth values with false
before true, integers by size, or texts by code point.  `Value.AtMost` is that line, and on such
values `Value.compare?` goes by it (`compare?_eq_lt_iff`, `compare?_eq_gt_iff`).

Doubles have no place in it, because no column holds them.

Any two values compare one way round in one order and the other way round in the other
(`compare?_swap`), so conditions call two values equal whichever stands first.
-/

namespace RelStore

/-- Two doubles compare the other way round in the other order. -/
theorem Binary64.compare?_swap (x y : Binary64) : (x.compare? y).map .swap = y.compare? x := by
  unfold compare?
  rw [Bool.or_comm]
  split
  · rfl
  · exact congrArg some Std.OrientedOrd.eq_swap.symm

namespace Value

/-! ## Both directions -/

/-- Two values compare the other way round in the other order. -/
theorem compare?_swap (v w : Value) : (v.compare? w).map .swap = w.compare? v := by
  cases v <;> cases w <;> simp only [compare?, Option.map_some, Option.map_none, Ordering.swap,
    Binary64.compare?_swap, Option.some.injEq] <;> exact Std.OrientedOrd.eq_swap.symm

/-- The first value equals the second in conditions just if the second equals the first. -/
theorem satisfies_equal_comm (v w : Value) : v.satisfies .equal w = w.satisfies .equal v := by
  have hswap : ∀ o : Ordering, Comparison.equal.holds o.swap = Comparison.equal.holds o := by
    decide
  have hcompared : ((v.compare? w).map Comparison.equal.holds).getD false =
      ((w.compare? v).map Comparison.equal.holds).getD false := by
    rw [← compare?_swap v w, Option.map_map]
    exact congrArg (Option.getD · false) (Option.map_congr fun o _ => (hswap o).symm)
  cases v <;> cases w
  case boolean.boolean a b => simp [satisfies, Bool.beq_comm]
  all_goals first | rfl | exact hcompared

/-! ## The line -/

/-- The first value is a null, or of the kind of the second and not greater. -/
def AtMost : Value → Value → Prop
  | null, _ => True
  | boolean a, boolean b => a ≤ b
  | integer i, integer j => i.toInt ≤ j.toInt
  | text s, text t => s ≤ t
  | _, _ => False

theorem AtMost.trans : ∀ {u v w : Value}, u.AtMost v → v.AtMost w → u.AtMost w
  | null, _, _, _, _ => trivial
  | boolean _, boolean _, boolean _, huv, hvw => Bool.le_trans huv hvw
  | integer _, integer _, integer _, huv, hvw => Int.le_trans huv hvw
  | text _, text _, text _, huv, hvw => String.le_trans huv hvw

/-- Values that stand at one place are the same. -/
theorem AtMost.antisymm : ∀ {v w : Value}, v.AtMost w → w.AtMost v → v = w
  | null, null, _, _ => rfl
  | boolean _, boolean _, hvw, hwv => congrArg boolean (Bool.le_antisymm hvw hwv)
  | integer _, integer _, hvw, hwv =>
    congrArg integer (Int64.toInt_inj.mp (Int.le_antisymm hvw hwv))
  | text _, text _, hvw, hwv => congrArg text (String.le_antisymm hvw hwv)

section Column

variable {type : ColumnType} {v w : Value}

theorem atMost_total (hv : type.Holds v) (hw : type.Holds w) : v.AtMost w ∨ w.AtMost v := by
  cases type <;> cases v <;> cases w <;> simp_all [ColumnType.Holds, AtMost, le_total]

/-- Of two values of one column the first is the less just if the second does not stand before it
or with it. -/
theorem compare?_eq_lt_iff (hv : type.Holds v) (hw : type.Holds w) :
    v.compare? w = some .lt ↔ ¬ w.AtMost v := by
  cases type <;> cases v <;> cases w <;>
    simp_all [ColumnType.Holds, compare?, AtMost, compare_lt_iff_lt]

theorem compare?_eq_gt_iff (hv : type.Holds v) (hw : type.Holds w) :
    v.compare? w = some .gt ↔ ¬ v.AtMost w := by
  cases type <;> cases v <;> cases w <;>
    simp_all [ColumnType.Holds, compare?, AtMost, compare_gt_iff_gt]

end Column

end Value

end RelStore
