import RelStore.Proofs.Session.Matching
import RelStore.Proofs.Store.Insertion
import RelStore.Proofs.Store.Reassignment

/-!
# Changes of the tables of a session

What is known of the changes of valid tables, said of the tables that a run of statements has made:
when values may be inserted, which row they make, that the row can be found again by the literal
that was its key, when a key may be assigned, and that an update made twice is the update made once.
-/

namespace RelStore

namespace Table

/-- **When an insertion succeeds, and what it adds.**  Into a table that a run of statements has
made, values given for different columns are inserted exactly if the columns are those declared, in
any order, every value casts to the type of its column, and the key, if there is one, is a null or
new.  The row added has the casts in the order of the schema, so the order in which columns and
values are given makes no difference to an insertion that succeeds. -/
theorem insert_of_executeAll {statements : List String} {table : String} {t : Table}
    (ht : (Session.executeAll ∅ statements).2.find table = .ok t) {columns : List String}
    {values : List Value} (hnodup : columns.Nodup) (hlength : columns.length = values.length) :
    ((∃ t', t.insert columns values = .ok t') ↔
      columns.Perm t.schema.columnNames ∧
      (∀ column ∈ t.schema.columns, ∀ v, (column.name, v) ∈ columns.zip values →
        ∃ w, column.type.cast v = .ok w) ∧
      t.KeyIsNew (columns.zip values)) ∧
    ∀ t', t.insert columns values = .ok t' →
      (∃ row, CastRow t.schema.columns (columns.zip values) row ∧
        t' = { t with rows := t.rows ++ [row] }) ∧
      ∀ columns' values', columns'.length = values'.length →
        (columns'.zip values').Perm (columns.zip values) → t.insert columns' values' = .ok t' := by
  have hvalid : t.Valid := (Catalog.valid_executeAll statements).of_find ht
  have hgiven : ((columns.zip values).map (·.1)).Nodup := by
    rwa [List.map_fst_zip (Nat.le_of_eq hlength)]
  refine ⟨⟨?succeeds, ?accepted⟩, fun t' h => ⟨?row, ?order⟩⟩
  case succeeds =>
    rintro ⟨t', h⟩
    obtain ⟨hfound, row, hrow, hnew, -⟩ := (hvalid.insert_eq_ok_iff hnodup hlength).mp h
    refine ⟨hrow.perm_columnNames hvalid.consistent hnodup hfound, fun column hcolumn v hv => ?_,
      hnew⟩
    obtain ⟨i, hi⟩ := List.getElem?_of_mem hcolumn
    obtain ⟨v', hv', hcast⟩ := rel_cellAt hrow hi
    exact ⟨_, eq_of_mem_given hgiven hv' hv ▸ hcast⟩
  case accepted =>
    rintro ⟨hperm, hcasts, hnew⟩
    obtain ⟨row, hrow⟩ : ∃ row, CastRow t.schema.columns (columns.zip values) row := by
      refine CastRow.exists_of_forall fun column hcolumn => ?_
      have hname : column.name ∈ columns := hperm.mem_iff.mpr (List.mem_map_of_mem hcolumn)
      obtain ⟨v, hv⟩ := exists_mem_given hlength hname
      exact ⟨v, hv, hcasts column hcolumn v hv⟩
    exact ⟨_, (hvalid.insert_eq_ok_iff hnodup hlength).mpr ⟨hperm.subset, row, hrow, hnew, rfl⟩⟩
  case row =>
    obtain ⟨-, row, hrow, -, rfl⟩ := (hvalid.insert_eq_ok_iff hnodup hlength).mp h
    exact ⟨row, hrow, rfl⟩
  case order =>
    exact fun columns' values' hlength' hperm => hvalid.insert_of_perm hnodup h hlength' hperm

/-- Values given in another order than declared, among them a text that denotes the key. -/
theorem insert_of_executeAll_reordered :
    let statements := ["CREATE TABLE t (id INT PRIMARY KEY, name TEXT, active BOOLEAN)",
      "INSERT INTO t (id, name, active) VALUES (2, 7, 1)"]
    let t : Table := ⟨⟨"t", [⟨"id", .integer⟩, ⟨"name", .text⟩, ⟨"active", .boolean⟩], some "id"⟩,
      [[.integer 2, .text "7", .boolean true]]⟩
    let t' : Table := { t with rows := t.rows ++ [[.integer 1, .text "b", .null]] }
    (Session.executeAll ∅ statements).2.find "t" = .ok t ∧
      t.insert ["active", "name", "id"] [.null, .text "b", .text " 1"] = .ok t' ∧
      ["active", "name", "id"].Perm t.schema.columnNames ∧
      t.insert ["id", "active", "name"] [.text " 1", .null, .text "b"] = .ok t' := by
  intro statements t t'
  have ht : (Session.executeAll ∅ statements).2.find "t" = .ok t := by decide +kernel
  have hinsert : t.insert ["active", "name", "id"] [.null, .text "b", .text " 1"] = .ok t' := by
    decide +kernel
  have hnodup : ["active", "name", "id"].Nodup := by decide
  have hlength : ["active", "name", "id"].length = [Value.null, .text "b", .text " 1"].length := rfl
  obtain ⟨hsucceeds, heffect⟩ := insert_of_executeAll ht hnodup hlength
  exact ⟨ht, hinsert, (hsucceeds.mp ⟨t', hinsert⟩).1,
    (heffect t' hinsert).2 ["id", "active", "name"] [.text " 1", .null, .text "b"] rfl (by decide)⟩

/-- **A row can be found and removed by the literal it was inserted with.**  After an insertion into
a table that a run of statements has made, the condition that the key equals the very literal given
for it, if that is no null, holds of the new row alone, and deleting by it leaves the table as it
was before.  Whatever its type, a literal that casts to a value may be compared with a column of the
type, and the value equals it. -/
theorem found_by_inserted_literal {statements : List String} {table : String} {t t' : Table}
    (ht : (Session.executeAll ∅ statements).2.find table = .ok t) {columns : List String}
    {values : List Value} (hnodup : columns.Nodup) (h : t.insert columns values = .ok t')
    {key : String} (hkey : t.schema.primaryKey = some key) {i : Nat} {type : ColumnType}
    (hlocate : t.schema.locate key = .ok (i, type)) {v w : Value}
    (hv : (key, v) ∈ columns.zip values) (hcast : type.cast v = .ok w) (hnotNull : w ≠ .null) :
    (∃ row bound, t'.rows = t.rows ++ [row] ∧ t'.bindTest ⟨key, v⟩ = .ok bound ∧
      matchesAt bound row = true ∧ (∀ old ∈ t.rows, matchesAt bound old = false) ∧
      (Relation.ofTable t').filter ⟨.and, [⟨.column key, .equal, v⟩]⟩
          (.ofList (t'.schema.columns.map fun column => (column.name, column.type))) =
        .ok ⟨t'.schema.columnNames, [row]⟩ ∧
      t'.delete ⟨key, v⟩ = .ok (1, t)) ∧
    ∀ (type : ColumnType) (v w : Value), type.cast v = .ok w →
      ∃ comparand, type.castComparand v = .ok comparand ∧ w.satisfies .equal comparand = true := by
  have hvalid : t.Valid := (Catalog.valid_executeAll statements).of_find ht
  have hnames := ((Catalog.spellable_executeAll statements).of_find ht).isName_column
  have hname : IsName key := isName_of_position? hnames (Schema.position?_of_locate hlocate)
  have hvalid' : t'.Valid := hvalid.insert h
  obtain ⟨hbound, row, rfl, hfound, hothers, hdelete⟩ :=
    hvalid.delete_inserted hnodup h hkey hlocate hv hcast hnotNull
  have hselected : (t.rows ++ [row]).filter (matchesAt (i, w)) = [row] := by
    have hnone : t.rows.filter (matchesAt (i, w)) = [] :=
      List.filter_eq_nil_iff.mpr fun old hold => by simp [hothers old hold]
    simp [hnone, hfound]
  refine ⟨⟨row, (i, w), rfl, hbound, hfound, hothers, ?_, hdelete⟩,
    fun type v w h => ColumnType.exists_castComparand h⟩
  rw [@filter_ofTable _ ⟨key, v⟩ hvalid' hnames hname, hbound]
  exact congrArg (fun rows => Except.ok (Relation.mk t.schema.columnNames rows)) hselected

/-- A key given as a text that is read as a double. -/
theorem found_by_inserted_literal_wholeText :
    let statements := ["CREATE TABLE t (k INT PRIMARY KEY, v TEXT)",
      "INSERT INTO t (k, v) VALUES (4, 'x')", "INSERT INTO t (k, v) VALUES (null, 'y')"]
    let t : Table := ⟨⟨"t", [⟨"k", .integer⟩, ⟨"v", .text⟩], some "k"⟩,
      [[.integer 4, .text "x"], [.null, .text "y"]]⟩
    let t' : Table := { t with rows := t.rows ++ [[.integer 5, .null]] }
    (Session.executeAll ∅ statements).2.find "t" = .ok t ∧
      t.insert ["v", "k"] [.null, .text " 5.0"] = .ok t' ∧
      t.schema.locate "k" = .ok (0, .integer) ∧
      ColumnType.integer.cast (.text " 5.0") = .ok (.integer 5) ∧
      (∃ bound, t'.bindTest ⟨"k", .text " 5.0"⟩ = .ok bound ∧
        ∀ old ∈ t.rows, matchesAt bound old = false) ∧
      t'.delete ⟨"k", .text " 5.0"⟩ = .ok (1, t) := by
  intro statements t t'
  have ht : (Session.executeAll ∅ statements).2.find "t" = .ok t := by decide +kernel
  have hinsert : t.insert ["v", "k"] [.null, .text " 5.0"] = .ok t' := by decide +kernel
  have hlocate : t.schema.locate "k" = .ok (0, .integer) := by decide +kernel
  have hcast : ColumnType.integer.cast (.text " 5.0") = .ok (.integer 5) := by decide +kernel
  obtain ⟨⟨row, bound, -, hbound, -, hothers, -, hdelete⟩, -⟩ :=
    found_by_inserted_literal ht (by decide) hinsert rfl hlocate (by decide) hcast (by decide)
  exact ⟨ht, hinsert, hlocate, hcast, ⟨bound, hbound, hothers⟩, hdelete⟩

/-- **When an update of the key succeeds.**  On a table that a run of statements has made, assigning
declared columns values that cast, to the rows that pass a test that can be bound, fails over a key
exactly if the value cast for the key would be there twice: it is no null, and more than one row is
selected, or one is and a row that is not has it.  The error names that value; in every other case
the update succeeds and counts the rows selected.  An update that does not assign the key never
fails over one. -/
theorem update_of_executeAll {statements : List String} {table : String} {t : Table}
    (ht : (Session.executeAll ∅ statements).2.find table = .ok t) {key : String}
    (hkey : t.schema.primaryKey = some key) (assignments : NameMap Value)
    (test : Option EqualityTest) :
    (assignments.get? key = none →
      ∀ name u, t.update assignments test ≠ .error (.duplicateKey name u)) ∧
    ∀ boundTest, t.Assigns assignments → test.mapM t.bindTest = .ok boundTest →
      (assignments.get? key = none → ∃ t', t.update assignments test =
        .ok (t.rows.countP (fun row => boundTest.all (matchesAt · row)), t')) ∧
      ∀ i type v w, t.schema.locate key = .ok (i, type) → assignments.get? key = some v →
        type.cast v = .ok w →
        ((∃ name u, t.update assignments test = .error (.duplicateKey name u)) ↔
          t.KeyClash i w boundTest) ∧
        (t.KeyClash i w boundTest → t.update assignments test = .error (.duplicateKey key w)) ∧
        (¬ t.KeyClash i w boundTest → ∃ t', t.update assignments test =
          .ok (t.rows.countP (fun row => boundTest.all (matchesAt · row)), t')) := by
  have hvalid : t.Valid := (Catalog.valid_executeAll statements).of_find ht
  refine ⟨fun hnone => update_ne_duplicateKey hkey hnone, fun boundTest hassigns htest => ?_⟩
  obtain ⟨bound, hbound⟩ := hassigns.exists_bindAssignments
  refine ⟨fun hnone => ⟨_, update_of_get?_eq_none hkey hnone hbound htest⟩,
    fun i type v w hlocate hvalue hcast => ?_⟩
  have hfails : t.KeyClash i w boundTest →
      t.update assignments test = .error (.duplicateKey key w) :=
    hvalid.update_of_keyClash hkey hbound hvalue hlocate hcast htest
  have hsucceeds := hvalid.update_of_not_keyClash hkey hbound hvalue hlocate hcast htest
  refine ⟨⟨?_, fun hclash => ⟨key, w, hfails hclash⟩⟩, hfails, fun hclash => ⟨_, hsucceeds hclash⟩⟩
  rintro ⟨name, u, herror⟩
  by_contra hclash
  cases herror.symm.trans (hsucceeds hclash)

/-- The key 2, given as a text, is put into a row beside the one that has it, and into that one; a
null is put into all rows. -/
theorem update_of_executeAll_takenKey :
    let statements := ["CREATE TABLE t (k INT PRIMARY KEY, v TEXT)",
      "INSERT INTO t (k, v) VALUES (1, 'a')", "INSERT INTO t (k, v) VALUES (2, 'b')"]
    let t : Table := ⟨⟨"t", [⟨"k", .integer⟩, ⟨"v", .text⟩], some "k"⟩,
      [[.integer 1, .text "a"], [.integer 2, .text "b"]]⟩
    let two : NameMap Value := .ofList [("k", .text "2")]
    let null : NameMap Value := .ofList [("k", .null)]
    (Session.executeAll ∅ statements).2.find "t" = .ok t ∧
      t.update two (some ⟨"v", .text "a"⟩) = .error (.duplicateKey "k" (.integer 2)) ∧
      (∃ t', t.update two (some ⟨"k", .integer 2⟩) = .ok (1, t')) ∧
      (∃ t', t.update null none = .ok (2, t')) := by
  intro statements t two null
  have ht : (Session.executeAll ∅ statements).2.find "t" = .ok t := by decide +kernel
  have hlocate : t.schema.locate "k" = .ok (0, .integer) := by decide +kernel
  have hcast : ColumnType.integer.cast (.text "2") = .ok (.integer 2) := by decide +kernel
  have hassigns : ∀ u w, ColumnType.integer.cast u = .ok w → t.Assigns (.ofList [("k", u)]) := by
    intro u w hcast name v h
    have hentry : (name, v) ∈ [("k", u)] := NameMap.get?_eq_some_iff.mp h
    obtain ⟨rfl, rfl⟩ : name = "k" ∧ v = u := by simpa using hentry
    exact ⟨_, _, _, hlocate, hcast⟩
  have htwo : t.Assigns two := hassigns _ _ hcast
  have htaken : t.KeyClash 0 (.integer 2) (some (1, .text "a")) := by decide
  have hown : ¬ t.KeyClash 0 (.integer 2) (some (0, .integer 2)) := by decide
  obtain ⟨-, hupdate⟩ := update_of_executeAll ht rfl two (some ⟨"v", .text "a"⟩)
  obtain ⟨-, hupdateOwn⟩ := update_of_executeAll ht rfl two (some ⟨"k", .integer 2⟩)
  obtain ⟨-, hupdateNull⟩ := update_of_executeAll ht rfl null none
  refine ⟨ht, ?_, ?_, ?_⟩
  · exact ((hupdate (some (1, .text "a")) htwo (by decide +kernel)).2 _ _ _ _ hlocate rfl hcast).2.1
      htaken
  · exact ((hupdateOwn (some (0, .integer 2)) htwo (by decide +kernel)).2 _ _ _ _ hlocate rfl
      hcast).2.2 hown
  · exact ((hupdateNull none (hassigns _ _ rfl) rfl).2 _ _ _ _ hlocate rfl rfl).2.2 fun h => h.1 rfl

/-- **An update writes what it names, and once is enough.**  Let an update of a table that a run of
statements has made succeed.  Row by row and in their order, those that passed its test before have
the cast of its literal in every column assigned and are as they were everywhere else, and those
that did not pass are as they were.  The count is that of the rows that passed before.  The same
update of the table that it leaves succeeds as well, and leaves that table as it is, also where the
test or the key is on a column assigned. -/
theorem update_again_of_executeAll {statements : List String} {table : String} {t t' : Table}
    (ht : (Session.executeAll ∅ statements).2.find table = .ok t) {assignments : NameMap Value}
    {test : Option EqualityTest} {count : Nat} (h : t.update assignments test = .ok (count, t')) :
    ∃ boundTest, test.mapM t.bindTest = .ok boundTest ∧ t'.schema = t.schema ∧
      List.Forall₂ (fun row row' =>
        if boundTest.all (matchesAt · row) then t.Assigned assignments row row' else row' = row)
        t.rows t'.rows ∧
      count = t.rows.countP (fun row => boundTest.all (matchesAt · row)) ∧
      ∃ count', t'.update assignments test = .ok (count', t') := by
  have hvalid : t.Valid := (Catalog.valid_executeAll statements).of_find ht
  have hagain := update_again h
  obtain ⟨bound, boundTest, hbound, htest, -, hcount, rfl⟩ := update_eq_ok h
  exact ⟨boundTest, htest, rfl, hvalid.forall₂_updatedRows hbound boundTest, hcount, hagain⟩

/-- The key and the column that is tested are both assigned, and no row passes the test again. -/
theorem update_again_of_executeAll_testedColumn :
    let statements := ["CREATE TABLE t (k INT PRIMARY KEY, v TEXT)",
      "INSERT INTO t (k, v) VALUES (1, 'a')", "INSERT INTO t (k, v) VALUES (2, 'b')"]
    let t : Table := ⟨⟨"t", [⟨"k", .integer⟩, ⟨"v", .text⟩], some "k"⟩,
      [[.integer 1, .text "a"], [.integer 2, .text "b"]]⟩
    let assignments : NameMap Value := .ofList [("v", .text "b"), ("k", .text " 7")]
    let test : EqualityTest := ⟨"v", .text "a"⟩
    let t' : Table := { t with rows := [[.integer 7, .text "b"], [.integer 2, .text "b"]] }
    (Session.executeAll ∅ statements).2.find "t" = .ok t ∧
      t.update assignments (some test) = .ok (1, t') ∧
      t.Assigned assignments [.integer 1, .text "a"] [.integer 7, .text "b"] ∧
      ∃ count', t'.update assignments (some test) = .ok (count', t') := by
  intro statements t assignments test t'
  have ht : (Session.executeAll ∅ statements).2.find "t" = .ok t := by decide +kernel
  have hupdate : t.update assignments (some test) = .ok (1, t') := by decide +kernel
  have htest : (some test).mapM t.bindTest = .ok (some (1, .text "a")) := by decide +kernel
  obtain ⟨boundTest, hbound, -, hrows, -, hagain⟩ := update_again_of_executeAll ht hupdate
  cases hbound.symm.trans htest
  exact ⟨ht, hupdate, (List.forall₂_cons.mp hrows).1, hagain⟩

end Table

end RelStore
