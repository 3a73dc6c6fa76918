import RelStore.Value.Basic
import RelStore.Binary64.Rounding

/-!
# How values compare

`Value.compare?` is the order behind sorting, extremes and conditions.  A null is below every
other value, numbers compare with numbers and texts with texts by code point; any other two kinds
have no order.  An integer meets a double as the double nearest to it.

`Value.satisfies` is the truth of a condition: a null equals a null and is in no other relation to
anything, and truth values know equality only.
-/

namespace RelStore

/-- A comparison that a condition may ask for. -/
inductive Comparison where
  | equal
  | greater
  | less
  | greaterOrEqual
  | lessOrEqual
deriving DecidableEq, Repr

/-- Whether the comparison holds of two things in the given order. -/
def Comparison.holds : Comparison → Ordering → Bool
  | equal, o => o == .eq
  | greater, o => o == .gt
  | less, o => o == .lt
  | greaterOrEqual, o => o != .lt
  | lessOrEqual, o => o != .gt

namespace Value

/-- The double nearest to a numeric value. -/
def asDouble? : Value → Option Binary64
  | integer i => some (.ofInt i.toInt)
  | float x => some x
  | _ => none

/-- The order of two values, if they have one. -/
def compare? : Value → Value → Option Ordering
  | null, null => some .eq
  | null, _ => some .lt
  | _, null => some .gt
  | boolean a, boolean b => some (compare a b)
  | integer a, integer b => some (compare a.toInt b.toInt)
  | integer a, float y => (Binary64.ofInt a.toInt).compare? y
  | float x, integer b => x.compare? (.ofInt b.toInt)
  | float x, float y => x.compare? y
  | text s, text t => some (compare s t)
  | _, _ => none

/-- Whether the condition that `v` stands in the comparison to `w` is true. -/
def satisfies (v : Value) (comparison : Comparison) (w : Value) : Bool :=
  match v, w with
  | null, null => comparison == .equal
  | null, _ => false
  | _, null => false
  | boolean a, boolean b => comparison == .equal && a == b
  | v, w => ((v.compare? w).map comparison.holds).getD false

/-- Whether two values are of one kind and equal in it, doubles being equal by value: an integer
never equals a double, nor a not-a-number itself. -/
def sameValue : Value → Value → Bool
  | float x, float y => x.sameValue y
  | v, w => v == w

end Value

end RelStore
