import RelStore.Plan.OfStatement
import RelStore.Proofs.Relation.Shape

/-!
# Columns of a select list

A select list names columns twice: by the names of the source, which the stages before the
projection go by, and by the names of the result, which are the ones that are seen.  Where the names
of the result are all different, each name leads to the same values on either side:

* `position_sourceOfOutput?`, when single rows are projected;
* `position_outputOfSource?`, when groups of rows are laid out.

Rows that are distinct in the columns selected are distinct in the result (`distinct_eq_firstBy`).
-/

namespace RelStore

/-! ## Positions -/

/-- A name that occurs once is found where it stands. -/
theorem position_of_count_eq_one {names : List String} {name : String} {i : Nat}
    (hcount : names.count name = 1) (h : names[i]? = some name) : position names name = .ok i := by
  obtain ⟨hi, hname⟩ := List.getElem?_eq_some_iff.mp h
  have hsplit : names.take i ++ name :: names.drop (i + 1) = names := by
    rw [← hname, List.getElem_cons_drop, List.take_append_drop]
  have hbefore : name ∉ names.take i := by
    intro hmem
    have hpos := List.count_pos_iff.mpr hmem
    rw [← hsplit, List.count_append, List.count_cons_self] at hcount
    omega
  have hidx : names.idxOf? name = some i := by
    unfold List.idxOf?
    rw [List.findIdx?_eq_some_iff_getElem]
    refine ⟨hi, by simp [hname], fun j hji => ?_⟩
    have hne : names[j] ≠ name := by
      intro heq
      exact hbefore (List.mem_iff_getElem.mpr ⟨j, by rw [List.length_take]; omega, by simp [heq]⟩)
    simpa using hne
  unfold position position?
  rw [hidx]

/-- Among different names each is found where it stands. -/
theorem position_of_nodup {columns : List String} {name : String} {i : Nat}
    (hnodup : columns.Nodup) (h : columns[i]? = some name) : position columns name = .ok i :=
  position_of_count_eq_one (List.count_eq_one_of_mem hnodup (List.mem_of_getElem? h)) h

theorem cellAt_cellsAt {positions : List Nat} {i j : Nat} (h : positions[i]? = some j)
    (row : Row) : cellAt (cellsAt positions row) i = cellAt row j := by
  unfold cellAt cellsAt
  rw [List.getElem?_map, h]
  rfl

theorem cellsAt_eq_iff {positions : List Nat} {row other : Row} :
    cellsAt positions row = cellsAt positions other ↔
      ∀ i ∈ positions, cellAt row i = cellAt other i :=
  List.map_inj_left

/-- All values of a row are the row. -/
theorem cellsAt_range (row : Row) : cellsAt (List.range row.length) row = row := by
  refine List.ext_getElem (by simp [cellsAt]) fun i hi hi' => ?_
  simp [cellsAt, cellAt, hi']

theorem mem_zip_range_iff {columns : List String} {i : Nat} {name : String} :
    (i, name) ∈ (List.range columns.length).zip columns ↔ columns[i]? = some name := by
  rw [List.mem_iff_getElem?]
  simp only [List.getElem?_zip_eq_some]
  constructor
  · rintro ⟨j, hj, hname⟩
    obtain ⟨hlt, hj⟩ := List.getElem?_eq_some_iff.mp hj
    rw [← hj, List.getElem_range]
    exact hname
  · intro hname
    obtain ⟨hi, -⟩ := List.getElem?_eq_some_iff.mp hname
    exact ⟨i, List.getElem?_range hi, hname⟩

/-- Rows that are distinct in all columns are distinct as rows. -/
theorem Relation.Shaped.distinct_none {r : Relation} (hr : r.Shaped) :
    r.distinct none = .ok { r with rows := firstBy id r.rows } := by
  have hrows : firstBy (cellsAt (List.range r.columns.length)) r.rows = firstBy id r.rows := by
    refine firstBy_congr fun row hrow other hother => ?_
    have hrange : ∀ row ∈ r.rows, cellsAt (List.range r.columns.length) row = row :=
      fun row hrow => hr row hrow ▸ cellsAt_range row
    rw [hrange row hrow, hrange other hother]
    rfl
  exact congrArg (fun rows => Except.ok { r with rows }) hrows

/-! ## Projections -/

section Selected

variable {columns : List String} {items : List SelectItem} {selected : List (List (Nat × String))}

/-- A star selects every column where it stands, a column the position that its name means. -/
theorem mem_selected_iff (h : items.mapM (selectedColumns columns) = .ok selected) {i : Nat}
    {name : String} : (i, name) ∈ selected.flatten ↔
      (.star ∈ items ∧ columns[i]? = some name) ∨
        ∃ source, .column source name ∈ items ∧ position columns source = .ok i := by
  have hall := mapM_eq_ok_iff.mp h
  constructor
  · intro hmem
    obtain ⟨list, hlist, hmem⟩ := List.mem_flatten.mp hmem
    obtain ⟨item, hitem, hselect⟩ := exists_mem_of_forall₂ hall hlist
    cases item with
    | star =>
        cases hselect
        exact .inl ⟨hitem, mem_zip_range_iff.mp hmem⟩
    | column source outputName =>
        obtain ⟨j, hj, hselect⟩ := bind_eq_ok_iff.mp hselect
        cases hselect
        cases List.mem_singleton.mp hmem
        exact .inr ⟨source, hitem, hj⟩
    | aggregate _ _ => contradiction
  · rintro (⟨hstar, hname⟩ | ⟨source, hitem, hi⟩)
    · obtain ⟨list, hlist, hselect⟩ := exists_mem_of_forall₂ hall.flip hstar
      cases hselect
      exact List.mem_flatten.mpr ⟨_, hlist, mem_zip_range_iff.mpr hname⟩
    · obtain ⟨list, hlist, hselect⟩ := exists_mem_of_forall₂ hall.flip hitem
      obtain ⟨j, hj, hselect⟩ := bind_eq_ok_iff.mp hselect
      cases hselect
      cases hj.symm.trans hi
      exact List.mem_flatten.mpr ⟨_, hlist, List.mem_singleton.mpr rfl⟩

/-- **A name of the result is sorted by as the name of its source.** -/
theorem position_sourceOfOutput? (h : items.mapM (selectedColumns columns) = .ok selected)
    (hnodup : (selected.flatten.map (·.2)).Nodup) {i j : Nat} {name : String}
    (hi : selected.flatten[i]? = some (j, name)) :
    position columns ((sourceOfOutput? items name).getD name) = .ok j := by
  have hmem : (j, name) ∈ selected.flatten := List.mem_of_getElem? hi
  cases hsource : sourceOfOutput? items name with
  | some source =>
      obtain ⟨item, hitem, hitemSource⟩ := List.exists_of_findSome?_eq_some hsource
      cases item with
      | star => contradiction
      | aggregate _ _ => contradiction
      | column source' outputName =>
          obtain ⟨rfl, hname⟩ : outputName = name ∧ source' = source := by
            simpa using hitemSource
          subst hname
          obtain ⟨list, hlist, hselect⟩ :=
            exists_mem_of_forall₂ (mapM_eq_ok_iff.mp h).flip hitem
          obtain ⟨j', hj', hselect⟩ := bind_eq_ok_iff.mp hselect
          cases hselect
          have hmem' : (j', outputName) ∈ selected.flatten :=
            List.mem_flatten.mpr ⟨_, hlist, List.mem_singleton.mpr rfl⟩
          cases List.inj_on_of_nodup_map hnodup hmem' hmem rfl
          exact hj'
  | none =>
      have hnone := List.findSome?_eq_none_iff.mp hsource
      rcases (mem_selected_iff h).mp hmem with ⟨hstar, hname⟩ | ⟨source, hitem, -⟩
      · -- every column is in the result, so the columns have different names
        obtain ⟨list, hlist, hselect⟩ := exists_mem_of_forall₂ (mapM_eq_ok_iff.mp h).flip hstar
        cases hselect
        have hsublist := (List.sublist_flatten_of_mem hlist).map (·.2)
        rw [List.map_snd_zip (by simp)] at hsublist
        exact position_of_nodup (hnodup.sublist hsublist) hname
      · simpa using hnone _ hitem

/-- The columns that rows are distinct in are the ones selected, or all if there is a star. -/
theorem sourceNames_cases (h : items.mapM (selectedColumns columns) = .ok selected) :
    (∃ names, items.mapM (·.sourceName?) = some names ∧
      names.mapM (position columns) = .ok (selected.flatten.map (·.1))) ∨
    (items.mapM (·.sourceName?) = none ∧ .star ∈ items) := by
  induction items generalizing selected with
  | nil =>
      cases h
      exact .inl ⟨[], rfl, rfl⟩
  | cons item items ih =>
      rw [List.mapM_cons] at h
      obtain ⟨list, hlist, h⟩ := bind_eq_ok_iff.mp h
      obtain ⟨lists, hlists, h⟩ := bind_eq_ok_iff.mp h
      cases h
      cases item with
      | star => exact .inr ⟨by rw [List.mapM_cons]; rfl, List.mem_cons_self⟩
      | column source outputName =>
          obtain ⟨i, hi, hlist⟩ := bind_eq_ok_iff.mp hlist
          cases hlist
          rcases ih hlists with ⟨names, hnames, hpositions⟩ | ⟨hnone, hstar⟩
          · refine .inl ⟨source :: names, ?_, ?_⟩
            · rw [List.mapM_cons, hnames]
              rfl
            · rw [List.mapM_cons, hi, hpositions]
              rfl
          · refine .inr ⟨?_, List.mem_cons_of_mem _ hstar⟩
            rw [List.mapM_cons, hnone]
            rfl
      | aggregate _ _ => contradiction

/-- **Rows are distinct in the columns selected just if they are in the result.** -/
theorem distinct_eq_firstBy (r : Relation)
    (h : items.mapM (selectedColumns r.columns) = .ok selected) :
    r.distinct (items.mapM (·.sourceName?)) =
      .ok { r with rows := firstBy (cellsAt (selected.flatten.map (·.1))) r.rows } := by
  rcases sourceNames_cases h with ⟨names, hnames, hpositions⟩ | ⟨hnone, hstar⟩
  · rw [hnames]
    unfold Relation.distinct
    dsimp only
    rw [hpositions]
    rfl
  · rw [hnone]
    have hrows : firstBy (cellsAt (List.range r.columns.length)) r.rows =
        firstBy (cellsAt (selected.flatten.map (·.1))) r.rows := by
      refine firstBy_congr fun row _ other _ => ?_
      rw [cellsAt_eq_iff, cellsAt_eq_iff]
      constructor
      · intro hall i hi
        obtain ⟨⟨_, name⟩, hmem, rfl⟩ := List.mem_map.mp hi
        obtain ⟨list, hlist, hmem⟩ := List.mem_flatten.mp hmem
        obtain ⟨item, -, hitem⟩ := exists_mem_of_forall₂ (mapM_eq_ok_iff.mp h) hlist
        exact hall _ (List.mem_range.mpr (Relation.lt_length_of_selectedColumns hitem hmem))
      · intro hall i hi
        have hlt := List.mem_range.mp hi
        refine hall i (List.mem_map.mpr ⟨(i, r.columns[i]), ?_, rfl⟩)
        exact (mem_selected_iff h).mpr (.inl ⟨hstar, List.getElem?_eq_getElem hlt⟩)
    exact congrArg (fun rows => Except.ok { r with rows }) hrows

end Selected

/-! ## Groups -/

section Groups

variable {columns groupBy : List String} {items : List SelectItem}
  {having : Option ConditionGroup} {types : ColumnTypes} {g : BoundGrouping}

/-- A column of a grouped result bears the name that an item gives it, or is grouped by and bears
its own. -/
theorem field_cases (h : bindGrouping columns groupBy items having types = .ok g)
    {field : OutputField} (hfield : field ∈ g.fields) :
    (∃ item ∈ items, item.outputName? = some field.name) ∨
      ∃ i, position columns field.name = .ok i ∧ field.source = .position i := by
  obtain ⟨hpositions, ⟨lists, hlists, hflatten⟩, -, -⟩ := bindGrouping_eq_ok h
  rw [hflatten] at hfield
  obtain ⟨list, hlist, hfield⟩ := List.mem_flatten.mp hfield
  obtain ⟨item, hitem, hlist⟩ := exists_mem_of_forall₂ (mapM_eq_ok_iff.mp hlists) hlist
  cases item with
  | star =>
      cases hlist
      obtain ⟨⟨name, i⟩, hpair, rfl⟩ := List.mem_map.mp hfield
      exact .inr ⟨i, (List.forall₂_iff_zip.mp (mapM_eq_ok_iff.mp hpositions)).2 hpair, rfl⟩
  | column source outputName =>
      obtain ⟨i, -, hlist⟩ := bind_eq_ok_iff.mp hlist
      split at hlist
      next =>
        cases hlist
        rw [List.mem_singleton.mp hfield]
        exact .inl ⟨_, hitem, rfl⟩
      next => contradiction
  | aggregate call outputName =>
      cases hlist
      rw [List.mem_singleton.mp hfield]
      exact .inl ⟨_, hitem, rfl⟩

/-- An item that is a column has its column in the result. -/
theorem exists_field_of_column (h : bindGrouping columns groupBy items having types = .ok g)
    {source outputName : String} (hitem : .column source outputName ∈ items) :
    ∃ field ∈ g.fields, field.name = outputName ∧
      ∃ i, position columns source = .ok i ∧ field.source = .position i := by
  obtain ⟨-, ⟨lists, hlists, hflatten⟩, -, -⟩ := bindGrouping_eq_ok h
  obtain ⟨list, hlist, hfields⟩ := exists_mem_of_forall₂ (mapM_eq_ok_iff.mp hlists).flip hitem
  obtain ⟨i, hi, hfields⟩ := bind_eq_ok_iff.mp hfields
  split at hfields
  next =>
    cases hfields
    rw [hflatten]
    exact ⟨_, List.mem_flatten.mpr ⟨_, hlist, List.mem_singleton.mpr rfl⟩, rfl, i, hi, rfl⟩
  next => contradiction

/-- **A name of the source is sorted by as a column of the result with the same values.** -/
theorem position_outputOfSource? (h : bindGrouping columns groupBy items having types = .ok g)
    (hnodup : (g.fields.map (·.name)).Nodup) {i : Nat} {field : OutputField}
    (hi : g.fields[i]? = some field) :
    ∃ j sorted, g.fields[j]? = some sorted ∧ sorted.source = field.source ∧
      position (g.fields.map (·.name))
        ((outputOfSource? items field.name).getD field.name) = .ok j := by
  cases houtput : outputOfSource? items field.name with
  | none => exact ⟨i, field, hi, rfl, position_of_nodup hnodup (by rw [List.getElem?_map, hi]; rfl)⟩
  | some outputName =>
      unfold outputOfSource? at houtput
      split at houtput
      next => contradiction
      next hnamed =>
        obtain ⟨item, hitem, hitemName⟩ := List.exists_of_findSome?_eq_some houtput
        -- the name is not given by an item, so it is that of a column grouped by
        have hnotNamed : ¬ ∃ item ∈ items, item.outputName? = some field.name := by
          rintro ⟨other, hother, hname⟩
          exact hnamed (List.any_eq_true.mpr ⟨other, hother, by simp [hname]⟩)
        obtain ⟨k, hk, hsource⟩ :=
          (field_cases h (List.mem_of_getElem? hi)).resolve_left hnotNamed
        cases item with
        | star => contradiction
        | aggregate _ _ => contradiction
        | column source output =>
            obtain ⟨hname, houtputName⟩ : source = field.name ∧ output = outputName := by
              simpa using hitemName
            obtain ⟨sorted, hsorted, hsortedName, i', hi', hsortedSource⟩ :=
              exists_field_of_column h hitem
            obtain ⟨j, hj⟩ := List.mem_iff_getElem?.mp hsorted
            rw [hname] at hi'
            cases hi'.symm.trans hk
            refine ⟨j, sorted, hj, hsortedSource.trans hsource.symm, ?_⟩
            refine position_of_nodup hnodup ?_
            rw [List.getElem?_map, hj, Option.map_some, hsortedName, houtputName, Option.getD_some]

end Groups

end RelStore
