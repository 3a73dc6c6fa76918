import RelStore.Proofs.Error.SingleLine
import RelStore.Proofs.Session.Spellable
import RelStore.Proofs.Store.Failure

/-!
# What the store reports

Casting, and the changes of a table, fail with messages that show names, numbers and values.  The
values are the literal that was to be cast or a cell that was to be a key, so if these are written
as single lines unless they are certain texts, the messages break for these texts only.

Casting makes such values of such values, so the cells of a table stay such.
-/

namespace RelStore

open Text

variable {texts : String → Prop}

/-! ## Casting -/

namespace ColumnType

/-- A text that casting makes of another value is what that value is written as. -/
theorem singleLineUnless_of_cast {type : ColumnType} {v w : Value} (h : type.cast v = .ok w)
    (hv : v.SingleLineUnless texts) : w.SingleLineUnless texts := by
  by_cases htext : type = .text
  · subst htext
    have hw : w = .null ∨ w = .text v.toText := by
      cases v <;> cases h <;> simp [Value.toText]
    rcases hw with rfl | rfl
    · exact Value.singleLineUnless_of_ne_text nofun
    · rcases hv with hsingle | ⟨s, rfl, hs⟩
      · exact .inl hsingle
      · exact Value.singleLineUnless_text hs
  · refine Value.singleLineUnless_of_ne_text fun s hs => ?_
    have hholds := holds_of_cast h
    rw [hs] at hholds
    cases type <;> first | exact htext rfl | exact hholds

theorem failsOnly_integerOfDouble (x : Binary64) :
    FailsOnly (Error.SingleLineUnless texts) (integerOfDouble x) := by
  unfold integerOfDouble
  split
  · exact failsOnly_ok _
  · exact failsOnly_error (Error.singleLineUnless_notIntegerNumber x)

theorem failsOnly_integerOfText {s : String} (h : (Value.text s).SingleLineUnless texts) :
    FailsOnly (Error.SingleLineUnless texts) (integerOfText s) := by
  unfold integerOfText
  dsimp only
  split
  · exact failsOnly_ok _
  · split
    · exact failsOnly_integerOfDouble _
    · exact failsOnly_error (Error.singleLineUnless_notIntegerText h)

variable {v : Value} (hv : v.SingleLineUnless texts)

include hv

/-- **A literal that does not fit a column's type is shown as it was given.** -/
theorem failsOnly_cast (type : ColumnType) :
    FailsOnly (Error.SingleLineUnless texts) (type.cast v) := by
  cases type with
  | integer =>
      cases v with
      | float x => exact failsOnly_map _ (failsOnly_integerOfDouble x)
      | text s => exact failsOnly_map _ (failsOnly_integerOfText hv)
      | null => exact failsOnly_ok _
      | boolean b => exact failsOnly_ok _
      | integer i => exact failsOnly_ok _
  | text => cases v <;> exact failsOnly_ok _
  | boolean => cases v <;> exact failsOnly_ok _

theorem failsOnly_castComparand (type : ColumnType) :
    FailsOnly (Error.SingleLineUnless texts) (type.castComparand v) := by
  unfold castComparand
  split
  · split
    · exact failsOnly_ok _
    · exact failsOnly_cast hv _
  · split
    · exact failsOnly_ok _
    · exact failsOnly_cast hv _
  · exact failsOnly_cast hv _

end ColumnType

theorem failsOnly_castComparandTo (type : Option ColumnType) {v : Value}
    (hv : v.SingleLineUnless texts) :
    FailsOnly (Error.SingleLineUnless texts) (castComparandTo type v) := by
  cases type with
  | none => exact failsOnly_ok _
  | some type => exact ColumnType.failsOnly_castComparand hv type

/-! ## Schemas -/

namespace Schema

variable (s : Schema) {name : String}

theorem failsOnly_position (h : SingleLine name) :
    FailsOnly (Error.SingleLineUnless texts) (s.position name) := by
  unfold position
  split
  · exact failsOnly_ok _
  · exact failsOnly_error (Error.singleLineUnless_columnNotFound h)

theorem failsOnly_locate (h : SingleLine name) :
    FailsOnly (Error.SingleLineUnless texts) (s.locate name) := by
  unfold locate
  split
  · exact failsOnly_ok _
  · exact failsOnly_error (Error.singleLineUnless_columnNotFound h)

/-- An inconsistent declaration is refused with the name of the table and at most one more. -/
theorem failsOnly_validate (hname : SingleLine s.name)
    (hcolumns : ∀ column ∈ s.columnNames, SingleLine column)
    (hkey : ∀ key ∈ s.primaryKey, SingleLine key) :
    FailsOnly (Error.SingleLineUnless texts) s.validate := by
  have hinvalid : ∀ {cause : SchemaError}, SingleLine cause.message →
      FailsOnly (Error.SingleLineUnless texts)
        (.error (.invalidSchema cause) : Except Error Unit) := fun h =>
    failsOnly_error (Error.singleLineUnless_of_singleLine (.append (by decide) h))
  unfold validate
  split
  · exact hinvalid ((SingleLine.append (by decide) hname).append (by decide))
  · split
    next column hcolumn =>
      have hmem := (count_of_firstRepeatAmong? hcolumn).1
      refine hinvalid (((SingleLine.append (by decide) (hcolumns column hmem)).append ?_).append
        hname)
      decide
    next =>
      split
      next key hprimary =>
        split
        · exact failsOnly_ok _
        · exact hinvalid (((SingleLine.append (by decide) (hkey key hprimary)).append
            (by decide)).append hname)
      next => exact failsOnly_ok _

end Schema

/-! ## Changes of a table -/

namespace Table

variable {t : Table} (ht : t.Spellable) (hcells : AllCells (Value.SingleLineUnless texts) t.rows)

/-- The columns of a table are named by single lines, its key too. -/
theorem Spellable.singleLine_key (ht : t.Spellable) {name : String} {i : Nat}
    (h : t.schema.keyColumn? = some (name, i)) : SingleLine name := by
  obtain ⟨column, hcolumn, rfl⟩ :=
    Schema.exists_column_of_position? (Schema.keyColumn?_eq_some_iff.mp h).2
  exact (ht.isName_column column (List.mem_of_getElem? hcolumn)).singleLine

theorem failsOnly_rowOfPairs {columns : List Column} (hcolumns : ∀ c ∈ columns, IsName c.name)
    {pairs : List (String × Value)} (hpairs : ∀ pair ∈ pairs, pair.2.SingleLineUnless texts) :
    FailsOnly (Error.SingleLineUnless texts) (rowOfPairs columns pairs) := by
  induction columns generalizing pairs with
  | nil => exact failsOnly_ok _
  | cons column columns ih =>
      obtain ⟨hcolumn, hrest⟩ := List.forall_mem_cons.mp hcolumns
      unfold rowOfPairs
      split
      · exact failsOnly_error (Error.singleLineUnless_missingColumn hcolumn.singleLine)
      next v hv =>
        have hmem : (column.name, v) ∈ pairs := by
          obtain ⟨before, after, rfl, -⟩ := List.lookup_eq_some_iff.mp hv
          simp
        refine failsOnly_bind (ColumnType.failsOnly_cast (hpairs _ hmem) _) fun cell _ => ?_
        refine failsOnly_bind (ih hrest fun pair hpair => ?_) fun cells _ => failsOnly_ok _
        exact hpairs pair (List.mem_filter.mp hpair).1

theorem failsOnly_bindTest (t : Table) {test : EqualityTest}
    (htest : test.WellFormed (Value.SingleLineUnless texts)) :
    FailsOnly (Error.SingleLineUnless texts) (t.bindTest test) := by
  refine failsOnly_bind (t.schema.failsOnly_locate htest.isName.singleLine) fun found _ => ?_
  exact failsOnly_bind (ColumnType.failsOnly_castComparand htest.literal _) fun _ _ =>
    failsOnly_ok _

theorem failsOnly_bindAssignments (t : Table) {assignments : NameMap Value}
    (hassigned : ∀ entry ∈ assignments.entries,
      IsName entry.1 ∧ entry.2.SingleLineUnless texts) :
    FailsOnly (Error.SingleLineUnless texts) (t.bindAssignments assignments) := by
  refine failsOnly_mapM fun entry hentry => ?_
  obtain ⟨hname, hliteral⟩ := hassigned entry hentry
  refine failsOnly_bind (t.schema.failsOnly_locate hname.singleLine) fun found _ => ?_
  exact failsOnly_bind (ColumnType.failsOnly_cast hliteral _) fun _ _ => failsOnly_ok _

/-- A key that is taken is shown as it would be stored. -/
theorem failsOnly_checkKeys {name : String} (hname : SingleLine name) (i : Nat) {rows : List Row}
    (hrows : AllCells (Value.SingleLineUnless texts) rows) :
    FailsOnly (Error.SingleLineUnless texts) (checkKeys name i rows) := by
  unfold checkKeys
  split
  next key hkey =>
    have hmem := (List.mem_filter.mp (count_of_firstRepeatAmong? hkey).1).1
    obtain ⟨row, hrow, rfl⟩ := List.mem_map.mp hmem
    refine failsOnly_error (Error.singleLineUnless_duplicateKey hname ?_)
    exact cellAt_of_forall_mem (hrows row hrow) (Value.singleLineUnless_of_ne_text nofun) i
  next => exact failsOnly_ok _

include ht

theorem failsOnly_checkNewKey {row : Row} (hrow : ∀ v ∈ row, v.SingleLineUnless texts) :
    FailsOnly (Error.SingleLineUnless texts) (t.checkNewKey row) := by
  unfold checkNewKey
  split
  · exact failsOnly_ok _
  next name i hkey =>
    dsimp only
    split
    · refine failsOnly_error (Error.singleLineUnless_duplicateKey (ht.singleLine_key hkey) ?_)
      exact cellAt_of_forall_mem hrow (Value.singleLineUnless_of_ne_text nofun) i
    · exact failsOnly_ok _

theorem failsOnly_insert {columns : List String} (hcolumns : ∀ c ∈ columns, IsName c)
    {values : List Value} (hvalues : ∀ v ∈ values, v.SingleLineUnless texts) :
    FailsOnly (Error.SingleLineUnless texts) (t.insert columns values) := by
  have hpairs : ∀ pair ∈ (columns.zip values).reverse, pair.2.SingleLineUnless texts :=
    fun pair hpair => hvalues _ (List.of_mem_zip (List.mem_reverse.mp hpair)).2
  unfold insert
  split
  · exact failsOnly_error (Error.singleLineUnless_internal _)
  refine failsOnly_bind (failsOnly_forM fun column hcolumn => ?_) fun _ _ => ?_
  · exact failsOnly_map _ (t.schema.failsOnly_position (hcolumns column hcolumn).singleLine)
  refine failsOnly_bind (failsOnly_rowOfPairs ht.isName_column hpairs) fun row hrow => ?_
  refine failsOnly_bind (failsOnly_checkNewKey ht ?_) fun _ _ => failsOnly_ok _
  exact forall_mem_of_rowOfPairs ColumnType.singleLineUnless_of_cast hpairs hrow

include hcells

theorem failsOnly_update {assignments : NameMap Value}
    (hassigned : ∀ entry ∈ assignments.entries,
      IsName entry.1 ∧ entry.2.SingleLineUnless texts)
    {test : Option EqualityTest}
    (htest : ∀ condition ∈ test, condition.WellFormed (Value.SingleLineUnless texts)) :
    FailsOnly (Error.SingleLineUnless texts) (t.update assignments test) := by
  rw [update_eq]
  refine failsOnly_bind (t.failsOnly_bindAssignments hassigned) fun bound hbound => ?_
  refine failsOnly_bind (failsOnly_optionMapM fun condition hcondition => ?_) fun boundTest _ => ?_
  · exact t.failsOnly_bindTest (htest condition hcondition)
  have hrows := hcells.updatedRows (forall_mem_of_bindAssignments
    ColumnType.singleLineUnless_of_cast (fun entry hentry => (hassigned entry hentry).2) hbound)
    boundTest
  refine failsOnly_bind (fun e he => ?_) fun _ _ => failsOnly_ok _
  obtain ⟨name, i, hkey, -, he⟩ := checkAssigned_eq_error he
  exact failsOnly_checkKeys (ht.singleLine_key hkey) i hrows e he

end Table

/-! ## Catalogs -/

namespace Catalog

variable (c : Catalog)

theorem failsOnly_create {schema : Schema} (h : SingleLine schema.name) :
    FailsOnly (Error.SingleLineUnless texts) (c.create schema) := by
  unfold create
  split
  · exact failsOnly_error (Error.singleLineUnless_tableExists h)
  · exact failsOnly_ok _

theorem failsOnly_find {name : String} (h : SingleLine name) :
    FailsOnly (Error.SingleLineUnless texts) (c.find name) := by
  unfold find
  split
  · exact failsOnly_ok _
  · exact failsOnly_error (Error.singleLineUnless_tableNotFound h)

theorem failsOnly_change {α : Type} {name : String} (h : SingleLine name)
    {f : Table → Except Error (α × Table)}
    (hf : ∀ t, c.find name = .ok t → FailsOnly (Error.SingleLineUnless texts) (f t)) :
    FailsOnly (Error.SingleLineUnless texts) (c.change name f) :=
  failsOnly_bind (c.failsOnly_find h) fun t ht =>
    failsOnly_bind (hf t ht) fun _ _ => failsOnly_ok _

end Catalog

end RelStore
