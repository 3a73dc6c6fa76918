import RelStore.Outcome.Basic

/-!
# Outcomes as text

Rows are drawn as a grid: a border, the column names, a border, one line per row, a border.  Each
column is as wide as its widest text, counted in characters, and texts are padded on the right.

```text
+----+-------+
| id | name  |
+----+-------+
| 1  | Alice |
+----+-------+
```

A row shorter than the columns has fewer cells, one that is longer is cut.
-/

namespace RelStore

/-- The text filled up with spaces to a width. -/
def padRight (width : Nat) (s : String) : String :=
  s ++ String.ofList (List.replicate (width - s.length) ' ')

/-- The width of a column: that of the widest of its name and its texts. -/
def columnWidth (texts : List (List String)) (i : Nat) (name : String) : Nat :=
  (texts.filterMap (·[i]?)).foldl (fun width text => max width text.length) name.length

/-- The widths of the columns. -/
def columnWidths (columns : List String) (texts : List (List String)) : List Nat :=
  columns.mapIdx (columnWidth texts)

/-- A border of the grid, with its line end. -/
def borderLine (widths : List Nat) : String :=
  let dashes := widths.map fun width => String.ofList (List.replicate (width + 2) '-')
  "+" ++ "+".intercalate dashes ++ "+\n"

/-- A line of cells, with its line end. -/
def cellLine (widths : List Nat) (texts : List String) : String :=
  let cells := (widths.zip texts).map fun (width, text) => " " ++ padRight width text ++ " "
  "|" ++ "|".intercalate cells ++ "|\n"

/-- The relation as a grid. -/
def Relation.grid (r : Relation) : String :=
  let texts := r.rows.map (·.map Value.toText)
  let widths := columnWidths r.columns texts
  let border := borderLine widths
  border ++ cellLine widths r.columns ++ border ++
    String.join (texts.map (cellLine widths)) ++ border

/-- The relation as a grid with the number of its rows below. -/
def Relation.toText (r : Relation) : String :=
  r.grid ++ "(" ++ r.rows.length.repr ++ " row(s))"

/-- The outcome as it is shown. -/
def Outcome.toText : Outcome → String
  | created table => "Table " ++ table ++ " created"
  | inserted count =>
    if count = 1 then "Row inserted successfully"
    else count.repr ++ " rows inserted successfully"
  | rows r => r.toText
  | updated count table => count.repr ++ " row(s) updated\n" ++ table.toText
  | deleted count => count.repr ++ " row(s) deleted"

/-! ## What can be printed -/

/-- The greatest width that a text can be padded to.  Padding to a greater one brings the program
down. -/
def maxWidth : Nat := 65535

/-- No column of the grid is too wide to be padded to.  The names are padded to the widths of all
columns, so one that is too wide is enough. -/
def Relation.Printable (r : Relation) : Prop :=
  ∀ width ∈ columnWidths r.columns (r.rows.map (·.map Value.toText)), width ≤ maxWidth

instance (r : Relation) : Decidable r.Printable :=
  List.decidableBAll _ _

/-- The outcome shows no grid that cannot be printed. -/
def Outcome.Printable : Outcome → Prop
  | rows r => r.Printable
  | updated _ table => table.Printable
  | _ => True

instance : (outcome : Outcome) → Decidable outcome.Printable
  | .created _ => .isTrue trivial
  | .inserted _ => .isTrue trivial
  | .rows r => inferInstanceAs (Decidable r.Printable)
  | .updated _ table => inferInstanceAs (Decidable table.Printable)
  | .deleted _ => .isTrue trivial

end RelStore
