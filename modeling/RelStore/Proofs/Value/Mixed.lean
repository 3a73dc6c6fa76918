import RelStore.Proofs.Binary64.Nearest
import RelStore.Proofs.Value.Ordered
import RelStore.Relation.Sort

/-!
# The order of values of all kinds

Two values stand one way round in one order and the other way round in the other, and three values
are in order as far as the order of values is transitive.  It is on nulls, truth values, texts,
integers alone and doubles alone.  Where integers stand among doubles it is not quite: integers are
compared with each other exactly and with a double after rounding, so a double that is nearest to
two integers equals both, though one of them is the less.

    j < i    and    i = x    and    x = j

The three go round in a circle, and every failure of transitivity is this circle, begun at one of
its three places (`compare?_trans_iff`).  It takes an integer beyond `2^53`, since the others are
doubles themselves.

| begun at | first two | last two | first and last |
| --- | --- | --- | --- |
| the greater integer | equal | equal | in the wrong order |
| the double | equal | in order | equal |
| the less integer | in order | equal | equal |
-/

namespace RelStore

namespace Value

/-- The first value stands before the second or with it. -/
def NotAfter (v w : Value) : Prop :=
  v.compare? w = some .lt ∨ v.compare? w = some .eq

/-- The values are two different integers and a double that equals both, in an order in which they
go round. -/
inductive Circular : Value → Value → Value → Prop
  | fromGreater {i j : Int64} {x : Binary64} (hlt : j.toInt < i.toInt)
      (hi : (integer i).compare? (float x) = some .eq)
      (hj : (integer j).compare? (float x) = some .eq) :
      Circular (integer i) (float x) (integer j)
  | fromDouble {i j : Int64} {x : Binary64} (hlt : j.toInt < i.toInt)
      (hi : (integer i).compare? (float x) = some .eq)
      (hj : (integer j).compare? (float x) = some .eq) :
      Circular (float x) (integer j) (integer i)
  | fromLess {i j : Int64} {x : Binary64} (hlt : j.toInt < i.toInt)
      (hi : (integer i).compare? (float x) = some .eq)
      (hj : (integer j).compare? (float x) = some .eq) :
      Circular (integer j) (integer i) (float x)

/-! ## Values compared by keys -/

section Keys

variable {α : Type} [LinearOrder α] {u v w : Value} {a b c : α}

theorem notAfter_iff_le (h : v.compare? w = some (compare a b)) : v.NotAfter w ↔ a ≤ b := by
  unfold NotAfter
  rw [h, Option.some.injEq, Option.some.injEq, compare_lt_iff_lt, compare_eq_iff_eq,
    le_iff_lt_or_eq]

theorem compare?_eq_iff (h : v.compare? w = some (compare a b)) :
    v.compare? w = some .eq ↔ a = b := by
  rw [h, Option.some.injEq, compare_eq_iff_eq]

/-- The first value stands before the third, or with it because all three stand together. -/
def Follows (u v w : Value) : Prop :=
  u.NotAfter w ∧ (u.compare? w = some .eq → u.compare? v = some .eq ∧ v.compare? w = some .eq)

/-- Values that are compared by one kind of key are in order as their keys are. -/
theorem follows_of_keys (huv : u.compare? v = some (compare a b))
    (hvw : v.compare? w = some (compare b c)) (huw : u.compare? w = some (compare a c))
    (hab : a ≤ b) (hbc : b ≤ c) : Follows u v w := by
  unfold Follows
  rw [notAfter_iff_le huw, compare?_eq_iff huw, compare?_eq_iff huv, compare?_eq_iff hvw]
  refine ⟨hab.trans hbc, ?_⟩
  rintro rfl
  exact ⟨le_antisymm hab hbc, le_antisymm hbc hab⟩

end Keys

/-! ## Integers and doubles -/

section Numbers

variable {i j : Int64} {x y : Binary64}

/-- The units of the double nearest to an integer. -/
def nearest (i : Int64) : ℤ :=
  (Binary64.ofInt i.toInt).units

theorem nearest_mono (h : i.toInt ≤ j.toInt) : nearest i ≤ nearest j :=
  Binary64.units_ofInt_mono h

theorem compare?_float (hx : x.isNaN = false) (hy : y.isNaN = false) :
    (float x).compare? (float y) = some (compare x.units y.units) :=
  Binary64.compare?_eq_some hx hy

theorem compare?_integer_float (hx : x.isNaN = false) :
    (integer i).compare? (float x) = some (compare (nearest i) x.units) :=
  compare?_float (Binary64.isNaN_ofInt _) hx

theorem compare?_float_integer (hx : x.isNaN = false) :
    (float x).compare? (integer i) = some (compare x.units (nearest i)) :=
  compare?_float hx (Binary64.isNaN_ofInt _)

end Numbers

/-! ## Values in order -/

/-- The values that stand in order, with the keys that they are compared by. -/
inductive InOrder : Value → Value → Prop
  | null (v : Value) : InOrder null v
  | boolean {a b : Bool} (h : a ≤ b) : InOrder (boolean a) (boolean b)
  | text {s t : String} (h : s ≤ t) : InOrder (text s) (text t)
  | integer {i j : Int64} (h : i.toInt ≤ j.toInt) : InOrder (integer i) (integer j)
  | float {x y : Binary64} (hx : x.isNaN = false) (hy : y.isNaN = false) (h : x.units ≤ y.units) :
      InOrder (float x) (float y)
  | integerFloat {i : Int64} {x : Binary64} (hx : x.isNaN = false) (h : nearest i ≤ x.units) :
      InOrder (integer i) (float x)
  | floatInteger {i : Int64} {x : Binary64} (hx : x.isNaN = false) (h : x.units ≤ nearest i) :
      InOrder (float x) (integer i)

variable {u v w : Value}

/-- A double that is compared with anything is a number. -/
theorem isNaN_of_compare? {x y : Binary64} {o : Ordering} (h : x.compare? y = some o) :
    x.isNaN = false ∧ y.isNaN = false := by
  unfold Binary64.compare? at h
  split at h
  next => contradiction
  next hnumbers => simpa using hnumbers

/-- Nothing but a null stands before a null or with it. -/
theorem eq_null_of_notAfter (h : v.NotAfter null) : v = null := by
  unfold NotAfter at h
  cases v <;> simp [compare?] at h ⊢

theorem NotAfter.inOrder (h : v.NotAfter w) : InOrder v w := by
  have hcompared : ∃ o, v.compare? w = some o := h.elim (⟨_, ·⟩) (⟨_, ·⟩)
  obtain ⟨o, ho⟩ := hcompared
  cases v with
  | null => exact .null w
  | boolean a =>
      cases w with
      | boolean b => exact .boolean ((notAfter_iff_le rfl).mp h)
      | null => exact nomatch eq_null_of_notAfter h
      | _ => contradiction
  | integer i =>
      cases w with
      | integer j => exact .integer ((notAfter_iff_le rfl).mp h)
      | float x =>
          have hx := (isNaN_of_compare? ho).2
          exact .integerFloat hx ((notAfter_iff_le (compare?_integer_float hx)).mp h)
      | null => exact nomatch eq_null_of_notAfter h
      | _ => contradiction
  | float x =>
      cases w with
      | integer j =>
          have hx := (isNaN_of_compare? ho).1
          exact .floatInteger hx ((notAfter_iff_le (compare?_float_integer hx)).mp h)
      | float y =>
          obtain ⟨hx, hy⟩ := isNaN_of_compare? ho
          exact .float hx hy ((notAfter_iff_le (compare?_float hx hy)).mp h)
      | null => exact nomatch eq_null_of_notAfter h
      | _ => contradiction
  | text s =>
      cases w with
      | text t => exact .text ((notAfter_iff_le rfl).mp h)
      | null => exact nomatch eq_null_of_notAfter h
      | _ => contradiction

/-! ## Three values -/

section Circles

variable {i j : Int64} {x : Binary64} (hx : x.isNaN = false)

include hx

/-- A double after two integers may equal both. -/
theorem follows_or_circular_of_less (hij : i.toInt ≤ j.toInt) (hjx : nearest j ≤ x.units) :
    Follows (integer i) (integer j) (float x) ∨ Circular (integer i) (integer j) (float x) := by
  have hmono := nearest_mono hij
  by_cases hequal : nearest i = x.units ∧ i.toInt ≠ j.toInt
  · refine .inr (.fromLess (lt_of_le_of_ne hij hequal.2) ?_ ?_)
    · rw [compare?_eq_iff (compare?_integer_float hx)]
      omega
    · rw [compare?_eq_iff (compare?_integer_float hx)]
      exact hequal.1
  · refine .inl ⟨(notAfter_iff_le (compare?_integer_float hx)).mpr (hmono.trans hjx), ?_⟩
    rw [compare?_eq_iff (compare?_integer_float hx), compare?_eq_iff (compare?_integer_float hx),
      compare?_eq_iff (v := .integer i) (w := .integer j) rfl]
    omega

/-- A double before two integers may equal both. -/
theorem follows_or_circular_of_double (hxi : x.units ≤ nearest i) (hij : i.toInt ≤ j.toInt) :
    Follows (float x) (integer i) (integer j) ∨ Circular (float x) (integer i) (integer j) := by
  have hmono := nearest_mono hij
  by_cases hequal : x.units = nearest j ∧ i.toInt ≠ j.toInt
  · refine .inr (.fromDouble (lt_of_le_of_ne hij hequal.2) ?_ ?_)
    · rw [compare?_eq_iff (compare?_integer_float hx)]
      exact hequal.1.symm
    · rw [compare?_eq_iff (compare?_integer_float hx)]
      omega
  · refine .inl ⟨(notAfter_iff_le (compare?_float_integer hx)).mpr (hxi.trans hmono), ?_⟩
    rw [compare?_eq_iff (compare?_float_integer hx), compare?_eq_iff (compare?_float_integer hx),
      compare?_eq_iff (v := .integer i) (w := .integer j) rfl]
    omega

/-- A double between two integers that are in the other order equals both. -/
theorem follows_or_circular_of_greater (hix : nearest i ≤ x.units) (hxj : x.units ≤ nearest j) :
    Follows (integer i) (float x) (integer j) ∨ Circular (integer i) (float x) (integer j) := by
  rcases lt_or_ge j.toInt i.toInt with hlt | hle
  · have hmono := nearest_mono hlt.le
    refine .inr (.fromGreater hlt ?_ ?_)
    · rw [compare?_eq_iff (compare?_integer_float hx)]
      omega
    · rw [compare?_eq_iff (compare?_integer_float hx)]
      omega
  · refine .inl ⟨(notAfter_iff_le rfl).mpr hle, ?_⟩
    rw [compare?_eq_iff (v := .integer i) (w := .integer j) rfl,
      compare?_eq_iff (compare?_integer_float hx), compare?_eq_iff (compare?_float_integer hx)]
    intro hequal
    have hsame : nearest i = nearest j := congrArg (fun n => (Binary64.ofInt n).units) hequal
    omega

end Circles

/-- **Values in order are in order as a whole, or go round.** -/
theorem follows_or_circular (huv : InOrder u v) (hvw : InOrder v w) :
    Follows u v w ∨ Circular u v w := by
  cases huv with
  | null =>
      left
      cases w with
      | null =>
          cases hvw
          exact ⟨.inr rfl, fun _ => ⟨rfl, rfl⟩⟩
      | _ => exact ⟨.inl rfl, nofun⟩
  | boolean hab =>
      cases hvw with
      | boolean hbc => exact .inl (follows_of_keys rfl rfl rfl hab hbc)
  | text hab =>
      cases hvw with
      | text hbc => exact .inl (follows_of_keys rfl rfl rfl hab hbc)
  | integer hij =>
      cases hvw with
      | integer hjk => exact .inl (follows_of_keys rfl rfl rfl hij hjk)
      | integerFloat hx hjx => exact follows_or_circular_of_less hx hij hjx
  | float hx hy hxy =>
      cases hvw with
      | float _ hz hyz =>
          exact .inl (follows_of_keys (compare?_float hx hy) (compare?_float hy hz)
            (compare?_float hx hz) hxy hyz)
      | floatInteger _ hyi =>
          exact .inl (follows_of_keys (compare?_float hx hy) (compare?_float_integer hy)
            (compare?_float_integer hx) hxy hyi)
  | integerFloat hx hix =>
      cases hvw with
      | float _ hy hxy =>
          exact .inl (follows_of_keys (compare?_integer_float hx) (compare?_float hx hy)
            (compare?_integer_float hy) hix hxy)
      | floatInteger _ hxj => exact follows_or_circular_of_greater hx hix hxj
  | floatInteger hx hxi =>
      cases hvw with
      | integer hij => exact follows_or_circular_of_double hx hxi hij
      | integerFloat hy hiy =>
          exact .inl (follows_of_keys (compare?_float_integer hx) (compare?_integer_float hy)
            (compare?_float hx hy) hxi hiy)

theorem Circular.not_follows (h : Circular u v w) : ¬ Follows u v w := by
  rintro ⟨hle, heq⟩
  cases h with
  | fromGreater hlt _ _ => exact absurd ((notAfter_iff_le rfl).mp hle) (not_le.mpr hlt)
  | @fromDouble i j x hlt hi _ =>
      have hswapped : (float x).compare? (integer i) = some .eq := by
        rw [← compare?_swap, hi]
        rfl
      have hsame := (compare?_eq_iff (v := integer _) (w := integer _) rfl).mp (heq hswapped).2
      exact hlt.ne hsame
  | fromLess hlt _ hj =>
      have hsame := (compare?_eq_iff (v := integer _) (w := integer _) rfl).mp (heq hj).1
      exact hlt.ne hsame

/-- It takes an integer without a double of its own to go round. -/
theorem Circular.exists_beyond (h : Circular u v w) :
    ∃ i : Int64, integer i ∈ [u, v, w] ∧ 2 ^ 53 < i.toInt.natAbs := by
  have hbeyond : ∀ {i j : Int64} {x : Binary64}, j.toInt < i.toInt →
      (integer i).compare? (float x) = some .eq → (integer j).compare? (float x) = some .eq →
      2 ^ 53 < i.toInt.natAbs ∨ 2 ^ 53 < j.toInt.natAbs := by
    intro i j x hlt hi hj
    have hx := (isNaN_of_compare? hi).2
    have hsame : nearest i = nearest j :=
      ((compare?_eq_iff (compare?_integer_float hx)).mp hi).trans
        ((compare?_eq_iff (compare?_integer_float hx)).mp hj).symm
    by_contra hsmall
    obtain ⟨hi', hj'⟩ := not_or.mp hsmall
    unfold nearest at hsame
    rw [Binary64.units_ofInt_of_natAbs_le (not_lt.mp hi'),
      Binary64.units_ofInt_of_natAbs_le (not_lt.mp hj')] at hsame
    have hones : (Binary64.unitsPerOne : ℤ) ≠ 0 := by
      exact_mod_cast Binary64.unitsPerOne_ne_zero
    exact hlt.ne' (mul_right_cancel₀ hones hsame)
  cases h with
  | fromGreater hlt hi hj => rcases hbeyond hlt hi hj with h | h <;> exact ⟨_, by simp, h⟩
  | fromDouble hlt hi hj => rcases hbeyond hlt hi hj with h | h <;> exact ⟨_, by simp, h⟩
  | fromLess hlt hi hj => rcases hbeyond hlt hi hj with h | h <;> exact ⟨_, by simp, h⟩

/-- **The order of values is transitive up to rounding.**  Two values compare the other way round in
the other order.  Of three values of which the first does not come after the second nor the second
after the third, the first does not come after the third, and is equal to it only if all are equal,
just if the three do not go round: two different integers and a double that equals both.  One of the
integers is then beyond `2^53`. -/
theorem compare?_trans_iff (u v w : Value) :
    v.compare? u = (u.compare? v).map .swap ∧
    (u.NotAfter v → v.NotAfter w →
      ((u.NotAfter w ∧
          (u.compare? w = some .eq → u.compare? v = some .eq ∧ v.compare? w = some .eq)) ↔
        ¬ Circular u v w)) ∧
    (Circular u v w → ∃ i : Int64, integer i ∈ [u, v, w] ∧ 2 ^ 53 < i.toInt.natAbs) := by
  refine ⟨(compare?_swap u v).symm, fun huv hvw => ⟨fun h hcircular => ?_, fun h => ?_⟩,
    Circular.exists_beyond⟩
  · exact hcircular.not_follows h
  · exact (follows_or_circular huv.inOrder hvw.inOrder).resolve_right h

/-- The greatest integer, an infinity above it and what is below both. -/
theorem compare?_trans_iff_infinity :
    let u : Value := .float ⟨0xbff8000000000000⟩
    let v : Value := .integer Int64.maxValue
    let w : Value := .float ⟨0x7ff0000000000000⟩
    u.NotAfter v ∧ v.NotAfter w ∧ ¬ Circular u v w ∧ u.NotAfter w := by
  intro u v w
  have huv : u.NotAfter v := .inl (by decide +kernel)
  have hvw : v.NotAfter w := .inl (by decide +kernel)
  have hcircular : ¬ Circular u v w := by
    show ¬ Circular (.float _) (.integer _) (.float _)
    nofun
  obtain ⟨-, htrans, -⟩ := compare?_trans_iff u v w
  exact ⟨huv, hvw, hcircular, ((htrans huv hvw).mpr hcircular).1⟩

/-- The two integers up to `2^63` and the double `2^63`, which equals both, so that sorting leaves
the greater integer before the less. -/
theorem compare?_circular :
    let i : Value := .integer 9223372036854775807
    let j : Value := .integer 9223372036854775806
    let x : Value := .float ⟨0x43e0000000000000⟩
    i.compare? x = some .eq ∧ x.compare? j = some .eq ∧ i.compare? j = some .gt ∧
      Relation.sort ⟨["s"], [[i], [x], [j]]⟩ ⟨"s", .ascending⟩ = .ok ⟨["s"], [[i], [x], [j]]⟩ ∧
      ¬ ∀ u v w : Value, u.NotAfter v → v.NotAfter w → u.NotAfter w := by
  intro i j x
  have hix : i.compare? x = some .eq := by decide +kernel
  have hxj : x.compare? j = some .eq := by decide +kernel
  have hij : i.compare? j = some .gt := by decide +kernel
  refine ⟨hix, hxj, hij, by decide +kernel, fun htrans => ?_⟩
  have hle := htrans i x j (.inr hix) (.inr hxj)
  unfold NotAfter at hle
  rw [hij] at hle
  exact absurd hle (by decide)

end Value

end RelStore
