import Mathlib.Data.List.Forall2
import RelStore.Outcome.Grid

/-!
# Grids are aligned

Every line of a grid is a list of cells with a mark before the first, between two and behind the
last, `+` in a border and `|` elsewhere (`ruled`).  Where the marks stand is decided by the lengths
of the cells (`marks`), and in all lines of a grid the cell of one column is as long: two more than
the column's width.  So the marks stand below one another, and what is between two of them is the
cell.

Without columns a line is two marks, as if there were one cell without a character (`orBlank`).
-/

namespace RelStore.Grid

/-! ## Cells between marks -/

/-- The cells, each with the mark before it, and the mark behind the last. -/
def ruled (mark : Char) (cells : List (List Char)) : List Char :=
  cells.flatMap (mark :: ·) ++ [mark]

/-- The places of the marks, the cells being of these lengths. -/
def marks : List ℕ → List ℕ
  | [] => [0]
  | n :: lengths => 0 :: (marks lengths).map (· + (n + 1))

theorem ruled_cons (mark : Char) (cell : List Char) (cells : List (List Char)) :
    ruled mark (cell :: cells) = mark :: (cell ++ ruled mark cells) := by
  simp [ruled]

theorem notMem_ruled {c mark : Char} {cells : List (List Char)} (hmark : c ≠ mark)
    (h : ∀ cell ∈ cells, c ∉ cell) : c ∉ ruled mark cells := by
  simp only [ruled, List.mem_append, List.mem_flatMap, List.mem_cons, List.not_mem_nil, or_false,
    not_or, not_exists, not_and]
  exact ⟨fun cell hcell => ⟨hmark, h cell hcell⟩, hmark⟩

theorem length_marks (lengths : List ℕ) : (marks lengths).length = lengths.length + 1 := by
  induction lengths with
  | nil => rfl
  | cons n lengths ih => rw [marks, List.length_cons, List.length_map, ih, List.length_cons]

theorem head?_marks (lengths : List ℕ) : (marks lengths).head? = some 0 := by
  cases lengths <;> rfl

/-- The last mark is the last character. -/
theorem getLast?_marks (mark : Char) (cells : List (List Char)) :
    ∃ last, (marks (cells.map List.length)).getLast? = some last ∧
      (ruled mark cells).length = last + 1 := by
  induction cells with
  | nil => exact ⟨0, rfl, rfl⟩
  | cons cell cells ih =>
      obtain ⟨last, hlast, hlength⟩ := ih
      refine ⟨last + (cell.length + 1), ?_, ?_⟩
      · rw [List.map_cons, marks, List.getLast?_cons, List.getLast?_map, hlast, Option.map_some,
          Option.getD_some]
      · rw [ruled_cons, List.length_cons, List.length_append, hlength]
        omega

theorem pairwise_marks (lengths : List ℕ) : (marks lengths).Pairwise (· < ·) := by
  induction lengths with
  | nil => exact List.pairwise_singleton _ _
  | cons n lengths ih =>
      refine List.pairwise_cons.mpr ⟨?_, List.pairwise_map.mpr (ih.imp fun h => ?_)⟩
      · exact List.forall_mem_map.mpr fun place _ => Nat.succ_pos _
      · exact Nat.add_lt_add_right h _

/-- There is a mark at each of the places. -/
theorem getElem?_ruled_of_mem_marks {mark : Char} {cells : List (List Char)} {place : ℕ}
    (h : place ∈ marks (cells.map List.length)) : (ruled mark cells)[place]? = some mark := by
  induction cells generalizing place with
  | nil =>
      obtain rfl := List.mem_singleton.mp h
      rfl
  | cons cell cells ih =>
      rw [ruled_cons]
      rcases List.mem_cons.mp h with rfl | h
      · rfl
      · obtain ⟨later, hlater, rfl⟩ := List.mem_map.mp h
        rw [← Nat.add_assoc, List.getElem?_cons_succ,
          List.getElem?_append_right (Nat.le_add_left _ _), Nat.add_sub_cancel]
        exact ih hlater

/-- Without a mark in a cell, the marks are at these places only. -/
theorem mem_marks_of_getElem?_ruled {mark : Char} {cells : List (List Char)} {place : ℕ}
    (hcells : ∀ cell ∈ cells, mark ∉ cell) (h : (ruled mark cells)[place]? = some mark) :
    place ∈ marks (cells.map List.length) := by
  induction cells generalizing place with
  | nil =>
      obtain ⟨hplace, -⟩ := List.getElem?_eq_some_iff.mp h
      exact List.mem_singleton.mpr (Nat.lt_one_iff.mp hplace)
  | cons cell cells ih =>
      obtain ⟨hcell, hcells⟩ := List.forall_mem_cons.mp hcells
      rw [ruled_cons] at h
      cases place with
      | zero => exact List.mem_cons_self
      | succ place =>
          rw [List.getElem?_cons_succ] at h
          rcases Nat.lt_or_ge place cell.length with hlt | hge
          · rw [List.getElem?_append_left hlt] at h
            exact absurd (List.mem_of_getElem? h) hcell
          · rw [List.getElem?_append_right hge] at h
            refine List.mem_cons_of_mem _ (List.mem_map.mpr ⟨_, ih hcells h, ?_⟩)
            omega

/-- **Between two marks that follow one another there is the cell.** -/
theorem exists_between_marks (mark : Char) {cells : List (List Char)} {j : ℕ} {cell : List Char}
    (h : cells[j]? = some cell) :
    ∃ start stop, (marks (cells.map List.length))[j]? = some start ∧
      (marks (cells.map List.length))[j + 1]? = some stop ∧
      ((ruled mark cells).take stop).drop (start + 1) = cell := by
  induction cells generalizing j with
  | nil => cases h
  | cons first cells ih =>
      rw [ruled_cons, List.map_cons, marks]
      cases j with
      | zero =>
          cases h
          refine ⟨0, cell.length + 1, rfl, ?_, ?_⟩
          · rw [List.getElem?_cons_succ, List.getElem?_map, ← List.head?_eq_getElem?, head?_marks,
              Option.map_some, Nat.zero_add]
          · rw [List.take_succ_cons, List.take_left, List.drop_succ_cons, List.drop_zero]
      | succ j =>
          obtain ⟨start, stop, hstart, hstop, hbetween⟩ := ih h
          refine ⟨start + (first.length + 1), stop + (first.length + 1), ?_, ?_, ?_⟩
          · rw [List.getElem?_cons_succ, List.getElem?_map, hstart, Option.map_some]
          · rw [List.getElem?_cons_succ, List.getElem?_map, hstop, Option.map_some]
          · rw [← Nat.add_assoc, ← Nat.add_assoc, List.take_succ_cons, List.drop_succ_cons,
              Nat.add_comm stop, List.take_length_add_append,
              show start + first.length + 1 = first.length + (start + 1) by omega,
              List.drop_length_add_append, hbetween]

/-! ## Lines of a grid -/

/-- The list, or a single default if it is empty. -/
def orBlank {α : Type} [Inhabited α] : List α → List α
  | [] => [default]
  | list => list

theorem forall_mem_orBlank {α : Type} [Inhabited α] {l : List α} {P : α → Prop} (hblank : P default)
    (h : ∀ a ∈ l, P a) : ∀ a ∈ orBlank l, P a := by
  cases l with
  | nil => exact List.forall_mem_singleton.mpr hblank
  | cons a l => exact h

theorem length_orBlank {α : Type} [Inhabited α] (l : List α) :
    (orBlank l).length = max l.length 1 := by
  cases l with
  | nil => rfl
  | cons a l => exact (Nat.max_eq_left (Nat.succ_pos _)).symm

theorem getElem?_orBlank {α : Type} [Inhabited α] {l : List α} {j : ℕ} {a : α}
    (h : l[j]? = some a) : (orBlank l)[j]? = some a := by
  cases l with
  | nil => cases h
  | cons b l => exact h

theorem map_length_orBlank (cells : List (List Char)) :
    (orBlank cells).map List.length = orBlank (cells.map List.length) := by
  cases cells <;> rfl

theorem cons_intercalate_eq_ruled (mark : Char) (cells : List (List Char)) :
    mark :: ([mark].intercalate cells ++ [mark]) = ruled mark (orBlank cells) := by
  have hcons : ∀ (cells : List (List Char)) (cell : List Char),
      [mark].intercalate (cell :: cells) = cell ++ cells.flatMap (mark :: ·) := by
    intro cells
    induction cells with
    | nil => exact fun cell => by simp [List.intercalate]
    | cons next cells ih =>
        intro cell
        rw [List.intercalate_cons_cons, ih, List.flatMap_cons, List.append_assoc]
        rfl
  cases cells with
  | nil => rfl
  | cons cell cells =>
      rw [hcons]
      rfl

/-- The cells of a border. -/
def dashes (widths : List ℕ) : List (List Char) :=
  widths.map fun width => List.replicate (width + 2) '-'

/-- The cells of the texts, each between spaces. -/
def padded (widths : List ℕ) (texts : List String) : List (List Char) :=
  (widths.zip texts).map fun entry =>
    ' ' :: entry.2.toList ++ List.replicate (entry.1 - entry.2.length + 1) ' '

theorem toList_borderLine (widths : List ℕ) :
    (borderLine widths).toList = ruled '+' (orBlank (dashes widths)) ++ ['\n'] := by
  rw [← cons_intercalate_eq_ruled]
  simp [borderLine, dashes, String.toList_intercalate, Function.comp_def]

theorem toList_cellLine (widths : List ℕ) (texts : List String) :
    (cellLine widths texts).toList = ruled '|' (orBlank (padded widths texts)) ++ ['\n'] := by
  rw [← cons_intercalate_eq_ruled]
  simp [cellLine, padded, padRight, String.toList_intercalate, Function.comp_def,
    List.replicate_succ']

variable {widths : List ℕ} {texts : List String}

/-- There is a text per column, no longer than the column is wide. -/
def Fits (widths : List ℕ) (texts : List String) : Prop :=
  List.Forall₂ (fun width text => text.length ≤ width) widths texts

/-- Texts that fit are padded to the widths. -/
theorem map_length_padded (h : Fits widths texts) :
    (padded widths texts).map List.length = widths.map (· + 2) := by
  induction h with
  | nil => rfl
  | cons hle _ ih =>
      refine congrArg₂ List.cons ?_ ih
      simp only [List.cons_append, List.length_cons, List.length_append, String.length_toList,
        List.length_replicate]
      omega

theorem map_length_dashes (widths : List ℕ) :
    (dashes widths).map List.length = widths.map (· + 2) := by
  simp [dashes, Function.comp_def]

theorem getElem?_padded (h : Fits widths texts) {j : ℕ} {text : String}
    (htext : texts[j]? = some text) :
    ∃ spaces, (padded widths texts)[j]? =
      some (' ' :: text.toList ++ List.replicate (spaces + 1) ' ') := by
  have hj : j < widths.length := by
    rw [h.length_eq]
    exact (List.getElem?_eq_some_iff.mp htext).1
  refine ⟨widths[j] - text.length, ?_⟩
  unfold padded
  rw [List.getElem?_map, List.getElem?_zip_eq_some (z := (widths[j], text)).mpr
    ⟨List.getElem?_eq_getElem hj, htext⟩, Option.map_some]

theorem newline_notMem_padded
    (h : ∀ text ∈ texts, '\n' ∉ text.toList) : ∀ cell ∈ padded widths texts, '\n' ∉ cell := by
  refine List.forall_mem_map.mpr fun entry hentry => ?_
  have htext := h entry.2 (List.of_mem_zip hentry).2
  simp [htext]

/-! ## Widths -/

theorem le_foldl_max (texts : List String) (init : ℕ) :
    init ≤ texts.foldl (fun width text => max width text.length) init ∧
      ∀ text ∈ texts, text.length ≤ texts.foldl (fun width text => max width text.length) init := by
  induction texts generalizing init with
  | nil => exact ⟨Nat.le_refl _, nofun⟩
  | cons text texts ih =>
      obtain ⟨hinit, htexts⟩ := ih (max init text.length)
      refine ⟨Nat.le_trans (Nat.le_max_left _ _) hinit, List.forall_mem_cons.mpr ⟨?_, htexts⟩⟩
      exact Nat.le_trans (Nat.le_max_right _ _) hinit

/-- The names of the columns are no longer than the widths. -/
theorem fits_columns (columns : List String) (texts : List (List String)) :
    Fits (columnWidths columns texts) columns := by
  refine List.forall₂_iff_get.mpr ⟨List.length_mapIdx, fun j _ _ => ?_⟩
  simp only [columnWidths, List.get_eq_getElem, List.getElem_mapIdx]
  exact (le_foldl_max _ _).1

/-- Nor are the texts of a row with one text per column. -/
theorem fits_texts {columns : List String} {texts : List (List String)} {line : List String}
    (hline : line ∈ texts) (hlength : line.length = columns.length) :
    Fits (columnWidths columns texts) line := by
  refine List.forall₂_iff_get.mpr ⟨List.length_mapIdx.trans hlength.symm, fun j _ hj => ?_⟩
  simp only [columnWidths, List.get_eq_getElem, List.getElem_mapIdx]
  refine (le_foldl_max _ _).2 _ (List.mem_filterMap.mpr ⟨line, hline, ?_⟩)
  exact List.getElem?_eq_getElem hj

/-! ## The whole text -/

/-- The text stands between two separators of the line that follow one another: a space, the text,
and spaces, at least one. -/
def ShowsAt (separators : List ℕ) (line : List Char) (j : ℕ) (text : String) : Prop :=
  ∃ start stop spaces, separators[j]? = some start ∧ separators[j + 1]? = some stop ∧
    (line.take stop).drop (start + 1) = ' ' :: text.toList ++ List.replicate (spaces + 1) ' '

/-- The places of the separators in a grid of columns with the widths. -/
def separators (widths : List ℕ) : List ℕ :=
  marks (orBlank (widths.map (· + 2)))

/-- A border without its line end. -/
def border (widths : List ℕ) : List Char :=
  ruled '+' (orBlank (dashes widths))

/-- A line of cells without its line end. -/
def cells (widths : List ℕ) (texts : List String) : List Char :=
  ruled '|' (orBlank (padded widths texts))

theorem lengths_border (widths : List ℕ) :
    (orBlank (dashes widths)).map List.length = orBlank (widths.map (· + 2)) := by
  rw [map_length_orBlank, map_length_dashes]

theorem lengths_cells (h : Fits widths texts) :
    (orBlank (padded widths texts)).map List.length = orBlank (widths.map (· + 2)) := by
  rw [map_length_orBlank, map_length_padded h]

/-- The crosses of a border stand at the separators. -/
theorem border_eq_cross_iff {place : ℕ} :
    (border widths)[place]? = some '+' ↔ place ∈ separators widths := by
  unfold border separators
  rw [← lengths_border]
  refine ⟨mem_marks_of_getElem?_ruled ?_, getElem?_ruled_of_mem_marks⟩
  refine forall_mem_orBlank List.not_mem_nil (List.forall_mem_map.mpr fun width _ => ?_)
  simp

theorem getLast?_separators (widths : List ℕ) :
    (separators widths).getLast? = some ((border widths).length - 1) := by
  obtain ⟨last, hlast, hlength⟩ := getLast?_marks '+' (orBlank (dashes widths))
  rw [lengths_border] at hlast
  unfold separators border
  rw [hlast, hlength, Nat.add_sub_cancel]

theorem length_cells (h : Fits widths texts) :
    (cells widths texts).length = (border widths).length := by
  obtain ⟨last, hlast, hlength⟩ := getLast?_marks '+' (orBlank (dashes widths))
  obtain ⟨last', hlast', hlength'⟩ := getLast?_marks '|' (orBlank (padded widths texts))
  -- the marks of both stand at the same places
  rw [lengths_border] at hlast
  rw [lengths_cells h, hlast] at hlast'
  cases hlast'
  unfold cells border
  rw [hlength, hlength']

theorem bar_of_mem_separators
    (h : Fits widths texts) {place : ℕ}
    (hplace : place ∈ separators widths) : (cells widths texts)[place]? = some '|' := by
  unfold separators at hplace
  rw [← lengths_cells h] at hplace
  exact getElem?_ruled_of_mem_marks hplace

theorem showsAt_cells (h : Fits widths texts)
    {j : ℕ} {text : String} (htext : texts[j]? = some text) :
    ShowsAt (separators widths) (cells widths texts) j text := by
  obtain ⟨spaces, hcell⟩ := getElem?_padded h htext
  obtain ⟨start, stop, hstart, hstop, hbetween⟩ :=
    exists_between_marks '|' (getElem?_orBlank hcell)
  rw [lengths_cells h] at hstart hstop
  exact ⟨start, stop, spaces, hstart, hstop, hbetween⟩

theorem newline_notMem_border (widths : List ℕ) : '\n' ∉ border widths := by
  refine notMem_ruled (by decide) (forall_mem_orBlank List.not_mem_nil ?_)
  exact List.forall_mem_map.mpr fun width _ => by simp

theorem newline_notMem_cells (h : ∀ text ∈ texts, '\n' ∉ text.toList) :
    '\n' ∉ cells widths texts :=
  notMem_ruled (by decide) (forall_mem_orBlank List.not_mem_nil (newline_notMem_padded h))

/-- The last line of the text. -/
def countLine (r : Relation) : String :=
  "(" ++ r.rows.length.repr ++ " row(s))"

theorem newline_notMem_countLine (r : Relation) : '\n' ∉ (countLine r).toList := by
  have hdigits : '\n' ∉ Nat.toDigits 10 r.rows.length := fun h =>
    absurd (Nat.isDigit_of_mem_toDigits (by decide) (by decide) h) (by decide)
  simp [countLine, hdigits]

/-- Lines with their ends, and a last one without, are the lines joined. -/
theorem flatMap_append_eq_intercalate (lines : List (List Char)) (last : List Char) :
    lines.flatMap (· ++ ['\n']) ++ last = ['\n'].intercalate (lines ++ [last]) := by
  induction lines with
  | nil => simp [List.intercalate]
  | cons line lines ih =>
      have hne : lines ++ [last] ≠ [] := List.append_ne_nil_of_right_ne_nil _ (List.cons_ne_nil _ _)
      rw [List.flatMap_cons, List.append_assoc, ih, List.cons_append,
        List.intercalate_cons_of_ne_nil hne]

/-- **The lines of the text.** -/
theorem splitOn_toText {r : Relation} (hname : ∀ name ∈ r.columns, '\n' ∉ name.toList)
    (hcell : ∀ row ∈ r.rows, ∀ v ∈ row, '\n' ∉ v.toText.toList) :
    let texts := r.rows.map (·.map Value.toText)
    let widths := columnWidths r.columns texts
    r.toText.toList.splitOn '\n' =
      border widths :: cells widths r.columns :: border widths ::
        (texts.map (cells widths) ++ [border widths, (countLine r).toList]) := by
  intro texts widths
  let lines := border widths :: cells widths r.columns :: border widths ::
    (texts.map (cells widths) ++ [border widths])
  have htext : r.toText.toList = ['\n'].intercalate (lines ++ [(countLine r).toList]) := by
    rw [← flatMap_append_eq_intercalate]
    simp [Relation.toText, Relation.grid, countLine, toList_borderLine, toList_cellLine, lines,
      texts, widths, border, cells, String.toList_join, List.flatMap_map, Function.comp_def]
  have hbodies : ∀ line ∈ texts.map (cells widths), '\n' ∉ line := by
    refine List.forall_mem_map.mpr fun line hline => newline_notMem_cells ?_
    obtain ⟨row, hrow, rfl⟩ := List.mem_map.mp hline
    exact List.forall_mem_map.mpr (hcell row hrow)
  have hlines : ∀ line ∈ lines ++ [(countLine r).toList], '\n' ∉ line := by
    simp only [lines, List.forall_mem_append, List.forall_mem_cons, List.not_mem_nil,
      false_imp_iff, implies_true, and_true]
    have hborder := newline_notMem_border widths
    exact ⟨⟨hborder, newline_notMem_cells hname, hborder, hbodies, hborder⟩,
      newline_notMem_countLine r⟩
  have hne : lines ++ [(countLine r).toList] ≠ [] := List.cons_ne_nil _ _
  rw [htext, List.splitOn_intercalate _ hlines hne]
  simp [lines]

/-- **The grid is aligned and shows everything.**  Between three equal borders there are the names
of the columns and one line per row, all as long as a border; the last line counts the rows.  The
crosses of a border stand where every other line has its separators, and between two of them is a
space, the whole text, and spaces, at least one. -/
theorem toText_aligned (r : Relation)
    (hrow : ∀ row ∈ r.rows, row.length = r.columns.length)
    (hname : ∀ name ∈ r.columns, '\n' ∉ name.toList)
    (hcell : ∀ row ∈ r.rows, ∀ v ∈ row, '\n' ∉ v.toText.toList) :
    ∃ (border header : List Char) (body : List (List Char)) (separators : List ℕ),
      (Outcome.rows r).toText.toList.splitOn '\n' =
        border :: header :: border ::
          (body ++ [border, ("(" ++ r.rows.length.repr ++ " row(s))").toList]) ∧
      body.length = r.rows.length ∧
      (∀ line ∈ header :: body, line.length = border.length) ∧
      (separators.length = max r.columns.length 1 + 1 ∧ separators.Pairwise (· < ·) ∧
        separators.head? = some 0 ∧ separators.getLast? = some (border.length - 1)) ∧
      (∀ place : ℕ, border[place]? = some '+' ↔ place ∈ separators) ∧
      (∀ other ∈ header :: body, ∀ place ∈ separators, other[place]? = some '|') ∧
      (∀ (j : ℕ) (name : String), r.columns[j]? = some name → ShowsAt separators header j name) ∧
      ∀ (i j : ℕ) (line : List Char) (row : Row) (v : Value), body[i]? = some line →
        r.rows[i]? = some row → row[j]? = some v → ShowsAt separators line j v.toText := by
  let texts := r.rows.map (·.map Value.toText)
  let widths := columnWidths r.columns texts
  have hcolumns : Fits widths r.columns :=
    fits_columns r.columns texts
  have htexts : ∀ row ∈ r.rows, Fits widths (row.map Value.toText) := fun row hmem =>
    fits_texts (List.mem_map_of_mem hmem) (by rw [List.length_map, hrow row hmem])
  -- every line of cells is one of texts that fit
  have hfits : ∀ line ∈ cells widths r.columns :: texts.map (cells widths), ∃ shown,
      Fits widths shown ∧ line = cells widths shown := by
    refine List.forall_mem_cons.mpr ⟨⟨_, hcolumns, rfl⟩, ?_⟩
    refine List.forall_mem_map.mpr (List.forall_mem_map.mpr fun row hmem => ?_)
    exact ⟨_, htexts row hmem, rfl⟩
  refine ⟨border widths, cells widths r.columns, texts.map (cells widths), separators widths,
    splitOn_toText hname hcell, by simp [texts], ?_,
    ⟨?_, pairwise_marks _, head?_marks _, getLast?_separators _⟩,
    fun place => border_eq_cross_iff, ?_, fun j name hj => showsAt_cells hcolumns hj, ?_⟩
  · intro line hline
    obtain ⟨shown, hshown, rfl⟩ := hfits line hline
    exact length_cells hshown
  · unfold separators
    rw [length_marks, length_orBlank, List.length_map, ← hcolumns.length_eq]
  · intro line hline place hplace
    obtain ⟨shown, hshown, rfl⟩ := hfits line hline
    exact bar_of_mem_separators hshown hplace
  · intro i j line row v hline hi hj
    rw [List.getElem?_map, List.getElem?_map, hi, Option.map_some, Option.map_some] at hline
    cases hline
    refine showsAt_cells (htexts row (List.mem_of_getElem? hi)) ?_
    rw [List.getElem?_map, hj, Option.map_some]

/-- Two columns and three rows, a text of which looks like separators. -/
theorem toText_aligned_bars :
    let r : Relation := ⟨["id", "größe"], [[.integer 1, .text "| + |"], [.integer (-22), .null],
      [.null, .text ""]]⟩
    r.toText = "+------+-------+\n| id   | größe |\n+------+-------+\n| 1    | | + | |\n" ++
      "| -22  | NULL  |\n| NULL |       |\n+------+-------+\n(3 row(s))" ∧
    ∃ line ∈ r.toText.toList.splitOn '\n', ∃ separators : List ℕ, separators.length = 3 ∧
      ShowsAt separators line 1 "| + |" := by
  intro r
  obtain ⟨border, header, body, separators, hlines, hbody, -, ⟨hseparators, -⟩, -, -, -, hcells⟩ :=
    toText_aligned r (by decide +kernel) (by decide +kernel) (by decide +kernel)
  have hfirst : 0 < body.length := by
    rw [hbody]
    decide
  refine ⟨by decide +kernel, body[0], ?_, separators, hseparators, ?_⟩
  · change body[0] ∈ (Outcome.rows r).toText.toList.splitOn '\n'
    rw [hlines]
    simp
  · exact hcells 0 1 _ _ (.text "| + |") (List.getElem?_eq_getElem hfirst) rfl rfl

end RelStore.Grid
