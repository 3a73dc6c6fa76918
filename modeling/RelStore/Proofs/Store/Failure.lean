import RelStore.Catalog
import RelStore.Proofs.Failure

/-!
# How the store fails

Looking up names, casting values and changing tables fail in many ways, of which only one is
internal: an insertion whose lists of columns and values are of different lengths.

The parts of an update or a deletion are bound before a row is touched, and that fails in two ways
only (`Error.OfBinding`): a name is that of no column, or a literal does not fit its column's type.
So an error over a key is never one of binding.
-/

namespace RelStore

/-! ## Casting -/

theorem integerOfDouble_eq_error {x : Binary64} {e : Error} (h : integerOfDouble x = .error e) :
    ∃ cause, e = .invalidValue cause := by
  unfold integerOfDouble at h
  split at h
  · contradiction
  · exact ⟨_, (Except.error.inj h).symm⟩

theorem integerOfText_eq_error {s : String} {e : Error} (h : integerOfText s = .error e) :
    ∃ cause, e = .invalidValue cause := by
  unfold integerOfText at h
  dsimp only at h
  split at h
  · contradiction
  · split at h
    · exact integerOfDouble_eq_error h
    · exact ⟨_, (Except.error.inj h).symm⟩

namespace ColumnType

/-- A value that is not cast does not fit the type. -/
theorem cast_eq_error {type : ColumnType} {v : Value} {e : Error} (h : type.cast v = .error e) :
    ∃ cause, e = .invalidValue cause := by
  cases type with
  | integer =>
      cases v with
      | float x => exact integerOfDouble_eq_error (map_eq_error_iff.mp h)
      | text s => exact integerOfText_eq_error (map_eq_error_iff.mp h)
      | null => contradiction
      | boolean b => contradiction
      | integer i => contradiction
  | text => cases v <;> contradiction
  | boolean => cases v <;> contradiction

/-- A literal that cannot be compared with a column does not fit its type. -/
theorem castComparand_eq_error {type : ColumnType} {v : Value} {e : Error}
    (h : type.castComparand v = .error e) : ∃ cause, e = .invalidValue cause := by
  unfold castComparand at h
  split at h
  · split at h
    · contradiction
    · exact cast_eq_error h
  · split at h
    · contradiction
    · exact cast_eq_error h
  · exact cast_eq_error h

theorem neverInternal_cast (type : ColumnType) (v : Value) : NeverInternal (type.cast v) := by
  intro cause h
  obtain ⟨_, h⟩ := cast_eq_error h
  contradiction

theorem neverInternal_castComparand (type : ColumnType) (v : Value) :
    NeverInternal (type.castComparand v) := by
  intro cause h
  obtain ⟨_, h⟩ := castComparand_eq_error h
  contradiction

end ColumnType

theorem neverInternal_castComparandTo (type : Option ColumnType) (v : Value) :
    NeverInternal (castComparandTo type v) := by
  cases type with
  | none => exact neverInternal_ok _
  | some type => exact type.neverInternal_castComparand v

/-! ## Schemas -/

namespace Schema

variable (s : Schema)

theorem neverInternal_position (name : String) : NeverInternal (s.position name) := by
  unfold position
  split
  · exact neverInternal_ok _
  · exact neverInternal_error nofun

/-- A name that is not located is that of no column. -/
theorem locate_eq_error {s : Schema} {name : String} {e : Error} (h : s.locate name = .error e) :
    e = .columnNotFound name := by
  unfold locate at h
  split at h
  · contradiction
  · exact (Except.error.inj h).symm

theorem neverInternal_validate : NeverInternal s.validate := by
  unfold validate
  split
  · exact neverInternal_error nofun
  · split
    · exact neverInternal_error nofun
    · split
      · split
        · exact neverInternal_ok _
        · exact neverInternal_error nofun
      · exact neverInternal_ok _

end Schema

/-! ## Changes of a table -/

theorem neverInternal_rowOfPairs (columns : List Column) (pairs : List (String × Value)) :
    NeverInternal (rowOfPairs columns pairs) := by
  induction columns generalizing pairs with
  | nil => exact neverInternal_ok _
  | cons column columns ih =>
      unfold rowOfPairs
      split
      · exact neverInternal_error nofun
      · refine neverInternal_bind (column.type.neverInternal_cast _) fun cell _ => ?_
        exact neverInternal_bind (ih _) fun cells _ => neverInternal_ok _

/-- A name is that of no column, or a literal does not fit the type of its column. -/
def Error.OfBinding : Error → Prop
  | .columnNotFound _ => True
  | .invalidValue _ => True
  | _ => False

namespace Table

variable (t : Table)

theorem bindTest_eq_error {t : Table} {test : EqualityTest} {e : Error}
    (h : t.bindTest test = .error e) : e.OfBinding := by
  rcases bind_eq_error_iff.mp h with h | ⟨found, -, h⟩
  · rw [Schema.locate_eq_error h]
    trivial
  · rcases bind_eq_error_iff.mp h with h | ⟨v, -, h⟩
    · obtain ⟨cause, rfl⟩ := ColumnType.castComparand_eq_error h
      trivial
    · contradiction

theorem bindAssignments_eq_error {t : Table} {assignments : NameMap Value} {e : Error}
    (h : t.bindAssignments assignments = .error e) : e.OfBinding := by
  obtain ⟨entry, -, h⟩ := exists_mem_of_mapM_eq_error h
  rcases bind_eq_error_iff.mp h with h | ⟨found, -, h⟩
  · rw [Schema.locate_eq_error h]
    trivial
  · rcases bind_eq_error_iff.mp h with h | ⟨v, -, h⟩
    · obtain ⟨cause, rfl⟩ := ColumnType.cast_eq_error h
      trivial
    · contradiction

theorem neverInternal_bindTest (test : EqualityTest) : NeverInternal (t.bindTest test) :=
  fun _ h => bindTest_eq_error h

theorem neverInternal_checkNewKey (row : Row) : NeverInternal (t.checkNewKey row) := by
  unfold checkNewKey
  split
  · exact neverInternal_ok _
  · dsimp only
    split
    · exact neverInternal_error nofun
    · exact neverInternal_ok _

theorem neverInternal_checkKeys (name : String) (i : Nat) (rows : List Row) :
    NeverInternal (checkKeys name i rows) := by
  unfold checkKeys
  split
  · exact neverInternal_error nofun
  · exact neverInternal_ok _

/-- An insertion of as many values as columns fails in no internal way. -/
theorem neverInternal_insert {columns : List String} {values : List Value}
    (h : columns.length = values.length) : NeverInternal (t.insert columns values) := by
  unfold insert
  rw [if_neg (not_not.mpr h)]
  refine neverInternal_bind (neverInternal_forM fun column _ => ?_) fun _ _ => ?_
  · exact neverInternal_map _ (t.schema.neverInternal_position column)
  refine neverInternal_bind (neverInternal_rowOfPairs _ _) fun row _ => ?_
  exact neverInternal_bind (t.neverInternal_checkNewKey row) fun _ _ => neverInternal_ok _

theorem neverInternal_update (assignments : NameMap Value) (test : Option EqualityTest) :
    NeverInternal (t.update assignments test) := by
  unfold update
  refine neverInternal_bind (fun _ h => bindAssignments_eq_error h) fun bound _ => ?_
  refine neverInternal_bind (neverInternal_optionMapM fun test _ => ?_) fun test _ => ?_
  · exact t.neverInternal_bindTest test
  dsimp only
  split
  · split
    · exact neverInternal_bind (neverInternal_checkKeys _ _ _) fun _ _ => neverInternal_ok _
    · exact neverInternal_ok _
  · exact neverInternal_ok _

theorem neverInternal_delete (test : EqualityTest) : NeverInternal (t.delete test) :=
  neverInternal_bind (t.neverInternal_bindTest test) fun _ _ => neverInternal_ok _

end Table

/-! ## Catalogs -/

namespace Catalog

variable (c : Catalog)

theorem neverInternal_find (name : String) : NeverInternal (c.find name) := by
  unfold find
  split
  · exact neverInternal_ok _
  · exact neverInternal_error nofun

theorem neverInternal_create (schema : Schema) : NeverInternal (c.create schema) := by
  unfold create
  split
  · exact neverInternal_error nofun
  · exact neverInternal_ok _

theorem neverInternal_change {α : Type} (name : String) {f : Table → Except Error (α × Table)}
    (h : ∀ t, NeverInternal (f t)) : NeverInternal (c.change name f) :=
  neverInternal_bind (c.neverInternal_find name) fun t _ =>
    neverInternal_bind (h t) fun _ _ => neverInternal_ok _

end Catalog

end RelStore
