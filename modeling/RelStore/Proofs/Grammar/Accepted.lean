import RelStore.Grammar.Statement
import RelStore.Proofs.Grammar.Reading.Change
import RelStore.Proofs.Result
import RelStore.Proofs.Token.Yields

/-!
# Declarations and changes that are read are well-formed

The converse of printing: what the grammar reads from a text has the form that is asked of what is
printed, literals apart.  A text that is read has no quote in it, but a double that is read need not
have a spelling.

Each parser yields what its part of the form asks for.  Lists are read by loops, which keep it of
the items read so far.
-/

namespace RelStore

open RelStore.Parser

namespace Grammar

/-! ## Names and literals -/

theorem yields_name : name.Yields IsName := by
  unfold name
  refine yields_bind yields_next ?_
  rintro token ⟨cs, hspells⟩
  cases hspells with
  | keyword _ =>
      refine yields_ite (fun _ => yields_malformed _) fun hreserved => ?_
      exact yields_pure (.keyword (by simpa using hreserved))
  | word hword hkeyword => exact yields_pure (.word hword hkeyword)
  | text _ => exact yields_malformed _
  | whole _ => exact yields_malformed _
  | fraction _ _ => exact yields_malformed _
  | symbol => exact yields_malformed _

theorem yields_ofResult {α : Type} {P : α → Prop} {result : Except SyntaxError α}
    (h : ∀ a, result = .ok a → P a) : (ofResult result).Yields P := by
  cases result with
  | error cause => exact yields_malformed cause
  | ok a => exact yields_pure (h a rfl)

/-- A literal that an insertion may give. -/
def Insertable (v : Value) : Prop :=
  v.Unquoted ∧ ∀ b, v ≠ .boolean b

theorem insertable_of_numberLiteral {negative : Bool} {whole : String} {fraction : Option String}
    {v : Value} (h : numberLiteral negative whole fraction = .ok v) : Insertable v := by
  unfold numberLiteral at h
  split at h
  next =>
    dsimp only at h
    split at h
    · cases h
      exact ⟨trivial, nofun⟩
    · contradiction
  next =>
    cases h
    exact ⟨trivial, nofun⟩

/-- A literal that is read has no quote in it, and is a truth value only where that is allowed. -/
theorem yields_literal (allowBoolean : Bool) :
    (literal allowBoolean).Yields fun v => v.Unquoted ∧ (allowBoolean = false → Insertable v) := by
  have hinsertable : ∀ v, Insertable v → v.Unquoted ∧ (allowBoolean = false → Insertable v) :=
    fun v hv => ⟨hv.1, fun _ => hv⟩
  have hboolean : ∀ b cause, (if allowBoolean then pure (.boolean b) else malformed cause :
      Parser Value).Yields fun v => v.Unquoted ∧ (allowBoolean = false → Insertable v) := by
    intro b cause
    refine yields_ite (fun hallow => yields_pure ⟨trivial, ?_⟩) fun _ => yields_malformed _
    -- a truth value is read only where it is allowed
    intro hdeny
    rw [hallow] at hdeny
    contradiction
  unfold literal
  refine yields_bind yields_next ?_
  intro token htoken
  split
  next s =>
    obtain ⟨cs, hspells⟩ := htoken
    cases hspells with
    | text hquote => exact yields_pure (hinsertable _ ⟨hquote, nofun⟩)
  next => exact yields_ofResult fun v hv => hinsertable v (insertable_of_numberLiteral hv)
  next =>
    refine yields_bind yields_true fun token _ => ?_
    split
    next => exact yields_ofResult fun v hv => hinsertable v (insertable_of_numberLiteral hv)
    next => exact yields_malformed _
  next => exact yields_pure (hinsertable _ ⟨trivial, nofun⟩)
  next =>
    refine yields_ite (fun _ => yields_pure (hinsertable _ ⟨trivial, nofun⟩)) fun _ => ?_
    exact yields_malformed _
  next => exact hboolean true _
  next => exact hboolean false _
  next => exact yields_malformed _

theorem yields_clause? {α : Type} {P : α → Prop} {k : Keyword} {rest : Parser α}
    (h : rest.Yields P) : (clause? k rest).Yields fun a? => ∀ a ∈ a?, P a := by
  unfold clause? acceptKeyword
  refine yields_bind yields_true fun _ _ => yields_ite (fun _ => ?_) fun _ => yields_pure (by simp)
  refine yields_bind h fun a ha => yields_pure ?_
  rintro _ ⟨⟩
  exact ha

theorem yields_equalityTest : equalityTest.Yields (·.WellFormed Value.Unquoted) := by
  unfold equalityTest
  refine yields_bind yields_name fun column hcolumn => yields_bind yields_true fun _ _ => ?_
  exact yields_bind (yields_literal true) fun v hv => yields_pure ⟨hcolumn, hv.1⟩

/-! ## Declarations -/

theorem yields_columnDefinition : columnDefinition.Yields fun column => IsName column.name := by
  unfold columnDefinition
  refine yields_bind yields_name fun name hname => yields_bind yields_true fun _ _ => ?_
  refine yields_bind yields_true fun _ _ => yields_ite (fun _ => ?_) fun _ => yields_pure hname
  exact yields_bind yields_true fun _ _ => yields_pure hname

theorem yields_keyConstraint : keyConstraint.Yields IsName := by
  unfold keyConstraint
  refine yields_bind yields_true fun _ _ => yields_bind yields_true fun _ _ => ?_
  refine yields_bind yields_name fun column hcolumn => yields_bind yields_true fun _ _ => ?_
  exact yields_pure hcolumn

/-- The columns and the key that were read are named by names. -/
def Named (read : List ColumnDefinition × Option String) : Prop :=
  (∀ column ∈ read.1, IsName column.name) ∧ ∀ column ∈ read.2, IsName column

theorem yields_tableElement {read : List ColumnDefinition × Option String} (h : Named read) :
    (tableElement read).Yields fun r => Named r.1 ∧ (r.1.1 = [] → r.1.2 ≠ none) := by
  unfold tableElement
  refine yields_bind yields_true fun _ _ => yields_ite (fun _ => ?_) fun _ => ?_
  · refine yields_bind yields_keyConstraint fun column hcolumn => ?_
    refine yields_ite (fun _ => yields_malformed _) fun _ => ?_
    refine yields_bind yields_true fun _ _ => yields_pure ⟨⟨h.1, ?_⟩, nofun⟩
    rintro _ ⟨⟩
    exact hcolumn
  · refine yields_bind yields_columnDefinition fun column hcolumn => ?_
    refine yields_bind yields_true fun _ _ => yields_pure ⟨⟨?_, h.2⟩, by simp⟩
    intro other hother
    rcases List.mem_append.mp hother with hother | hother
    · exact h.1 other hother
    · rw [List.mem_singleton.mp hother]
      exact hcolumn

theorem yields_createTable : createTable.Yields (·.WellFormed Value.Unquoted) := by
  have helements : tableElements.Yields fun read => Named read ∧ (read.1 = [] → read.2 ≠ none) := by
    rw [tableElements_eq]
    exact yields_loop Named _ ⟨by simp, nofun⟩ (fun _ h => yields_tableElement h) fun _ h => h.1
  unfold createTable
  refine yields_bind yields_true fun _ _ => yields_bind yields_true fun token _ => ?_
  split
  next =>
    refine yields_bind yields_name fun name hname => yields_bind yields_true fun _ _ => ?_
    refine yields_bind helements ?_
    rintro ⟨columns, key⟩ ⟨⟨hcolumns, hkey⟩, hne⟩
    exact yields_bind yields_true fun _ _ => yields_pure ⟨hname, hcolumns, hkey, hne⟩
  next => exact yields_malformed _

/-! ## Changes -/

/-- **What each item keeps of the items before it, the whole list has**, and there is an item. -/
theorem yields_untilClosed {α : Type} {item : List α → Parser α} (R : List α → Prop)
    (hnil : R []) (hitem : ∀ as, R as → (item as).Yields fun a => R (as ++ [a])) :
    (untilClosed item).Yields fun as => as ≠ [] ∧ R as := by
  unfold untilClosed
  refine yields_loop R _ hnil (fun as has => ?_) fun _ h => h.2
  refine yields_bind (hitem as has) fun a ha => yields_bind yields_true fun token _ => ?_
  split
  · exact yields_pure ⟨by simp, ha⟩
  · exact yields_pure ⟨by simp, ha⟩
  · exact yields_malformed _

theorem yields_insert : insert.Yields (·.WellFormed Value.Unquoted) := by
  unfold insert
  refine yields_bind yields_true fun _ _ => yields_bind yields_true fun _ _ => ?_
  refine yields_bind yields_name fun table htable => yields_bind yields_true fun _ _ => ?_
  refine yields_bind (yields_untilClosed (fun columns => columns.Nodup ∧ ∀ c ∈ columns, IsName c)
    ⟨.nil, by simp⟩ ?_) ?_
  · intro columns hcolumns
    refine yields_bind yields_name fun column hcolumn => ?_
    refine yields_ite (fun _ => yields_malformed _) fun hnew => yields_pure ?_
    -- a column that was read before is refused
    refine ⟨List.nodup_append.mpr ⟨hcolumns.1, by simp, ?_⟩, ?_⟩
    · rintro c hc d hd rfl
      exact hnew (List.mem_singleton.mp hd ▸ hc)
    · intro c hc
      rcases List.mem_append.mp hc with hc | hc
      · exact hcolumns.2 c hc
      · rw [List.mem_singleton.mp hc]
        exact hcolumn
  rintro columns ⟨hne, hnodup, hcolumns⟩
  refine yields_bind yields_true fun _ _ => yields_bind yields_true fun _ _ => ?_
  refine yields_bind (yields_untilClosed (fun values => ∀ v ∈ values, Insertable v) (by simp) ?_) ?_
  · intro values hvalues
    refine (yields_literal false).mono fun v hv => ?_
    intro w hw
    rcases List.mem_append.mp hw with hw | hw
    · exact hvalues w hw
    · rw [List.mem_singleton.mp hw]
      exact hv.2 rfl
  rintro values ⟨-, hvalues⟩
  -- lists of different lengths are refused when both are read
  refine yields_ite (fun _ => yields_malformed _) fun hlength => yields_pure ?_
  exact ⟨htable, hne, hcolumns, hnodup, by simpa using hlength, hvalues⟩

theorem yields_assignments : assignments.Yields fun assigned =>
    assigned.entries ≠ [] ∧ ∀ entry ∈ assigned.entries, IsName entry.1 ∧ entry.2.Unquoted := by
  rw [assignments_eq]
  refine yields_loop (fun read : NameMap Value =>
    ∀ entry ∈ read.entries, IsName entry.1 ∧ entry.2.Unquoted) _ nofun ?_ fun _ h => h.2
  intro read hread
  refine yields_bind yields_name fun column hcolumn => yields_bind yields_true fun _ _ => ?_
  refine yields_bind (yields_literal true) fun v hv => ?_
  refine yields_ite (fun _ => yields_malformed _) fun _ => ?_
  refine yields_bind yields_true fun _ _ => yields_pure ⟨?_, ?_⟩
  -- the assignment just read is an entry
  · have hentry := NameMap.get?_eq_some_iff.mp (read.get?_insert_self column v)
    exact List.ne_nil_of_mem hentry
  · intro entry hentry
    rcases NameMap.mem_insertEntry hentry with rfl | hentry
    · exact ⟨hcolumn, hv.1⟩
    · exact hread entry hentry

theorem yields_update : update.Yields (·.WellFormed Value.Unquoted) := by
  unfold update
  refine yields_bind yields_true fun _ _ => yields_bind yields_name fun table htable => ?_
  refine yields_bind yields_true fun _ _ => yields_bind yields_assignments ?_
  rintro assigned ⟨hne, hassigned⟩
  refine yields_bind (yields_clause? yields_equalityTest) fun test htest => yields_pure ?_
  exact ⟨htable, hne, hassigned, htest⟩

theorem yields_delete : delete.Yields (·.WellFormed Value.Unquoted) := by
  unfold delete
  refine yields_bind yields_true fun _ _ => yields_bind yields_true fun _ _ => ?_
  refine yields_bind yields_name fun table htable => ?_
  refine yields_bind (yields_clause? yields_equalityTest) fun test htest => yields_pure ?_
  exact ⟨htable, htest⟩

end Grammar

end RelStore
