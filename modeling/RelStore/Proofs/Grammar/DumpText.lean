import RelStore.Catalog.Dump
import RelStore.Proofs.Grammar.Lexemes
import RelStore.Proofs.Store.Row

/-!
# The texts of a catalog's statements

The declarations and insertions that a catalog is written as, character by character.  The compact
layout puts a space between two lexemes unless a parenthesis or a comma keeps them together, so the
lists between parentheses are the texts of their items with a comma and a space between any two
(`layOut_parenthesized`).
-/

namespace RelStore

/-- The text of a statement in the compact layout. -/
def Statement.compactText (s : Statement) : String :=
  Lexeme.layOut Lexeme.standsApartTight s.lexemes

namespace Lexeme

theorem name_ne_symbol (s : String) (sign : Symbol) : name s ≠ symbol sign := by
  intro h
  have htoken := congrArg token h
  rw [token_name] at htoken
  unfold Token.ofWord at htoken
  dsimp only at htoken
  split at htoken <;> contradiction

theorem keyword_ne_symbol (k : Keyword) (sign : Symbol) : keyword k ≠ symbol sign := by
  intro h
  cases congrArg token h

/-! ## Lists between parentheses -/

section Compact

variable {l next : Lexeme} {rest : List Lexeme}

theorem layOut_cons_apart (hl : l ≠ symbol .minus ∧ l ≠ symbol .openParen)
    (hnext : next ≠ symbol .comma ∧ next ≠ symbol .closeParen) :
    layOut standsApartTight (l :: next :: rest) =
      l.written ++ (" " ++ layOut standsApartTight (next :: rest)) := by
  have hapart : standsApartTight l next = true := by
    simp [standsApartTight, standsApart, hl, hnext]
  rw [layOut, hapart, if_pos rfl, String.append_assoc]

/-- What is no symbol stands apart from what does not close anything. -/
theorem layOut_cons_of_ne_symbol (hl : ∀ sign, l ≠ symbol sign)
    (hnext : next ≠ symbol .comma ∧ next ≠ symbol .closeParen) :
    layOut standsApartTight (l :: next :: rest) =
      l.written ++ (" " ++ layOut standsApartTight (next :: rest)) :=
  layOut_cons_apart ⟨hl _, hl _⟩ hnext

theorem layOut_cons_close (h : standsApartTight l next = false) :
    layOut standsApartTight (l :: next :: rest) =
      l.written ++ layOut standsApartTight (next :: rest) := by
  rw [layOut, h, if_neg (by simp), String.append_empty]

theorem layOut_openParen (ls : List Lexeme) :
    layOut standsApartTight (symbol .openParen :: ls) = "(" ++ layOut standsApartTight ls := by
  cases ls with
  | nil => rfl
  | cons next rest => exact layOut_cons_close (by simp [standsApartTight])

/-- Nothing stands apart from a comma or a closing parenthesis after it. -/
theorem layOut_append_closing {ls : List Lexeme} (hne : ls ≠ [])
    (hnext : next = symbol .comma ∨ next = symbol .closeParen) :
    layOut standsApartTight (ls ++ next :: rest) =
      layOut standsApartTight ls ++ layOut standsApartTight (next :: rest) := by
  have hclose : ∀ l, standsApartTight l next = false := by
    intro l
    rcases hnext with rfl | rfl <;> simp [standsApartTight]
  induction ls using layOut.induct with
  | case1 => contradiction
  | case2 l => exact layOut_cons_close (hclose l)
  | case3 l l' ls ih =>
      have htail := ih (by simp)
      rw [List.cons_append, List.cons_append] at *
      rw [layOut, layOut, htail]
      simp only [String.append_assoc]

/-- The phrase begins with a lexeme that stands apart from a comma before it. -/
def Opens (phrase : List Lexeme) : Prop :=
  ∃ l ls, phrase = l :: ls ∧ l ≠ symbol .comma ∧ l ≠ symbol .closeParen

theorem Opens.ne_nil {phrase : List Lexeme} (h : Opens phrase) : phrase ≠ [] := by
  obtain ⟨l, ls, rfl, -⟩ := h
  simp

theorem layOut_comma {phrase : List Lexeme} (h : Opens phrase) :
    layOut standsApartTight (symbol .comma :: (phrase ++ rest)) =
      ", " ++ layOut standsApartTight (phrase ++ rest) := by
  obtain ⟨l, ls, rfl, hl⟩ := h
  exact layOut_cons_apart (by decide) hl

/-- **The text of a list is its items' texts with a comma and a space between any two.** -/
theorem layOut_separated {phrase : List Lexeme} {phrases : List (List Lexeme)}
    (h : ∀ p ∈ phrase :: phrases, Opens p) (rest : List Lexeme) :
    layOut standsApartTight
        (separatedBy (symbol .comma) (phrase :: phrases) ++ symbol .closeParen :: rest) =
      ", ".intercalate ((phrase :: phrases).map (layOut standsApartTight)) ++
        layOut standsApartTight (symbol .closeParen :: rest) := by
  induction phrases generalizing phrase with
  | nil =>
      have hne := (h phrase List.mem_cons_self).ne_nil
      rw [separatedBy_cons, List.flatMap_nil, List.append_nil,
        layOut_append_closing hne (.inr rfl)]
      rfl
  | cons next phrases ih =>
      have hne := (h phrase List.mem_cons_self).ne_nil
      obtain ⟨-, hrest⟩ := List.forall_mem_cons.mp h
      have htail := ih hrest
      rw [separatedBy_cons, List.append_assoc] at htail
      rw [separatedBy_cons, List.flatMap_cons, List.append_assoc, List.cons_append,
        List.cons_append, List.append_assoc, layOut_append_closing hne (.inl rfl),
        layOut_comma (hrest next List.mem_cons_self), htail]
      simp only [List.map_cons, String.intercalate_cons_cons, String.append_assoc]

/-- The text of a list between parentheses after a word. -/
theorem layOut_list {α : Type} (phrase : α → List Lexeme) (text : α → String) {as : List α}
    (hl : ∀ sign, l ≠ symbol sign) (hne : as ≠ []) (hopens : ∀ a ∈ as, Opens (phrase a))
    (htext : ∀ a ∈ as, layOut standsApartTight (phrase a) = text a) (rest : List Lexeme) :
    layOut standsApartTight (l :: (parenthesized (as.map phrase) ++ rest)) =
      l.written ++ (" (" ++ (", ".intercalate (as.map text) ++
        layOut standsApartTight (symbol .closeParen :: rest))) := by
  have htexts : (as.map phrase).map (layOut standsApartTight) = as.map text := by
    rw [List.map_map]
    exact List.map_congr_left htext
  cases as with
  | nil => contradiction
  | cons a as =>
      have hlist := layOut_separated (List.forall_mem_map.mpr hopens) rest
      rw [← List.map_cons, htexts] at hlist
      rw [parenthesized, List.cons_append, List.cons_append,
        layOut_cons_of_ne_symbol hl (by decide), layOut_openParen, List.append_assoc,
        List.singleton_append, hlist, ← @String.append_assoc " " "("]
      rfl

end Compact

end Lexeme

open Lexeme

/-! ## Declarations -/

/-- The text of a column in the declaration of its table. -/
def Schema.columnText (s : Schema) (column : Column) : String :=
  column.name ++ " " ++ column.type.name ++
    if s.primaryKey = some column.name then " PRIMARY KEY" else ""

/-- The text that declares a table. -/
def Schema.declarationText (s : Schema) : String :=
  "CREATE TABLE " ++ s.name ++ " (" ++ ", ".intercalate (s.columns.map s.columnText) ++ ")"

theorem layOut_columnDefinition (s : Schema) (column : Column) :
    layOut standsApartTight (ColumnDefinition.lexemes
      ⟨column.name, column.type, s.primaryKey = some column.name⟩) = s.columnText column := by
  have htype : (keyword column.type.keyword).written = column.type.name := by
    cases column.type <;> rfl
  have hkey : layOut standsApartTight keyLexemes = "PRIMARY KEY" := by decide
  have hne : ∀ {k}, keyword k ≠ symbol .comma ∧ keyword k ≠ symbol .closeParen :=
    ⟨keyword_ne_symbol _ _, keyword_ne_symbol _ _⟩
  unfold ColumnDefinition.lexemes Schema.columnText
  rw [layOut_cons_of_ne_symbol (name_ne_symbol _) hne]
  by_cases hprimary : s.primaryKey = some column.name
  · rw [if_pos (by simpa using hprimary), if_pos hprimary, keyLexemes,
      layOut_cons_of_ne_symbol (keyword_ne_symbol _) hne, ← keyLexemes, hkey, htype]
    simp only [String.append_assoc]
    rfl
  · rw [if_neg (by simpa using hprimary), if_neg hprimary, layOut, htype]
    simp only [String.append_assoc, String.append_empty]
    rfl

theorem Schema.compactText_declaration {s : Schema} (hne : s.columns ≠ []) :
    s.declaration.compactText = s.declarationText := by
  let definition (column : Column) : List Lexeme :=
    ColumnDefinition.lexemes ⟨column.name, column.type, s.primaryKey = some column.name⟩
  have hlexemes : s.declaration.lexemes = .keyword .create :: .keyword .table :: .name s.name ::
      (parenthesized (s.columns.map definition) ++ []) := by
    simp [declaration, Statement.lexemes, definition, Function.comp_def]
  have hlist := layOut_list definition s.columnText (name_ne_symbol s.name) hne
    (fun column _ => ⟨_, _, rfl, name_ne_symbol _ _, name_ne_symbol _ _⟩)
    (fun column _ => layOut_columnDefinition s column) []
  unfold Statement.compactText declarationText
  rw [hlexemes, layOut_cons_of_ne_symbol (keyword_ne_symbol _)
      ⟨keyword_ne_symbol _ _, keyword_ne_symbol _ _⟩,
    layOut_cons_of_ne_symbol (keyword_ne_symbol _) ⟨name_ne_symbol _ _, name_ne_symbol _ _⟩, hlist]
  rw [show "CREATE TABLE " = "CREATE" ++ (" " ++ ("TABLE" ++ " ")) by decide]
  simp only [String.append_assoc]
  rfl

/-! ## Insertions -/

/-- The text that an insertion gives a stored cell by. -/
def insertedText : Value → String
  | .null => "null"
  | .boolean b => if b then "1" else "0"
  | .integer i => Text.integerText i.toInt
  | .float x => x.toText
  | .text s => "'" ++ s ++ "'"

/-- The text that inserts a row. -/
def Schema.insertionText (s : Schema) (row : Row) : String :=
  "INSERT INTO " ++ s.name ++ " (" ++ ", ".intercalate s.columnNames ++ ") VALUES (" ++
    ", ".intercalate (row.map insertedText) ++ ")"

theorem layOut_insertedLiteral {type : ColumnType} {v : Value} (h : type.Holds v) :
    layOut standsApartTight (literalLexemes (insertedLiteral v)) = insertedText v := by
  cases v with
  | null => decide
  | boolean b => cases b <;> decide
  | integer i =>
      unfold insertedLiteral literalLexemes insertedText Text.integerText
      dsimp only
      split
      · rfl
      · rfl
  | float x => cases type <;> exact h.elim
  | text s => rfl

theorem opens_literalLexemes (v : Value) : Opens (literalLexemes v) := by
  cases v with
  | null => exact ⟨_, _, rfl, by decide, by decide⟩
  | boolean b => cases b <;> exact ⟨_, _, rfl, by decide, by decide⟩
  | integer i =>
      unfold literalLexemes
      dsimp only
      split
      · exact ⟨_, _, rfl, by decide, by decide⟩
      · exact ⟨_, _, rfl, by simp [number, symbol], by simp [number, symbol]⟩
  | float x =>
      unfold literalLexemes
      dsimp only
      split
      · exact ⟨_, _, rfl, by decide, by decide⟩
      · exact ⟨_, _, rfl, by simp [pointedNumber, number, symbol],
          by simp [pointedNumber, number, symbol]⟩
  | text s => exact ⟨_, _, rfl, by simp [Lexeme.text, symbol], by simp [Lexeme.text, symbol]⟩

theorem Schema.compactText_insertion {s : Schema} (hne : s.columns ≠ []) {row : Row}
    (hrow : s.Admits row) : (s.insertion row).compactText = s.insertionText row := by
  let literal (v : Value) : List Lexeme := literalLexemes (insertedLiteral v)
  have hlexemes : (s.insertion row).lexemes = .keyword .insert :: .keyword .into :: .name s.name ::
      (parenthesized (s.columnNames.map fun column => [.name column]) ++
        .keyword .values :: (parenthesized (row.map literal) ++ [])) := by
    simp [insertion, Statement.lexemes, literal, Function.comp_def]
  have hrow_ne : row ≠ [] := by
    rintro rfl
    exact hne (List.eq_nil_of_length_eq_zero hrow.length_eq.symm)
  have hcolumns_ne : s.columnNames ≠ [] := fun hnil => hne (List.map_eq_nil_iff.mp hnil)
  have htext : ∀ v ∈ row, layOut standsApartTight (literal v) = insertedText v := by
    intro v hv
    obtain ⟨column, -, hholds⟩ := exists_mem_of_forall₂ hrow hv
    exact layOut_insertedLiteral hholds
  have hvalues := layOut_list literal insertedText (keyword_ne_symbol .values) hrow_ne
    (fun v _ => opens_literalLexemes (insertedLiteral v)) htext []
  have hcolumns := layOut_list (fun column => [.name column]) id (name_ne_symbol s.name)
    hcolumns_ne (fun column _ => ⟨_, _, rfl, name_ne_symbol _ _, name_ne_symbol _ _⟩)
    (fun _ _ => rfl) (.keyword .values :: (parenthesized (row.map literal) ++ []))
  unfold Statement.compactText insertionText
  rw [hlexemes, layOut_cons_of_ne_symbol (keyword_ne_symbol _)
      ⟨keyword_ne_symbol _ _, keyword_ne_symbol _ _⟩,
    layOut_cons_of_ne_symbol (keyword_ne_symbol _) ⟨name_ne_symbol _ _, name_ne_symbol _ _⟩,
    hcolumns, List.map_id,
    layOut_cons_apart (by decide) ⟨keyword_ne_symbol _ _, keyword_ne_symbol _ _⟩, hvalues]
  rw [show "INSERT INTO " = "INSERT" ++ (" " ++ ("INTO" ++ " ")) by decide,
    show ") VALUES (" = ")" ++ (" " ++ ("VALUES" ++ " (")) by decide]
  simp only [String.append_assoc]
  rfl

end RelStore
