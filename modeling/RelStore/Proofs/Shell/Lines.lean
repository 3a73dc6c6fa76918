import RelStore.Shell.Line

/-!
# Lines read from an input

Of a line editor it is asked that it prints its prompt and takes the input line by line, as long as
the lines hold nothing that a line editor may act on (`ReadsLines`): no backspace, and no carriage
return before the line feed.  An input made of such lines is read as those lines
(`ReadsLines.read_inputOf`), and `readLines` is such a line editor (`readsLines_readLines`).
-/

namespace RelStore.Shell

/-- A line that a line editor hands on as it stands. -/
structure PlainLine (line : String) : Prop where
  noFeed : '\n' ∉ line.toList
  noBackspace : backspace ∉ line.toList
  noReturn : line.toList.getLast? ≠ some '\r'

/-- The line editor prints the prompt before each line and before the end of the input, and hands on
plain lines as they stand. -/
structure ReadsLines (read : String → String → Readings) : Prop where
  ended (prompt : String) : read prompt "" = .ended prompt
  line (prompt : String) {line : String} (h : PlainLine line) (rest : String) :
    read prompt (line ++ "\n" ++ rest) = .line prompt line (read prompt rest)
  /-- The last line need not be ended by a line feed. -/
  lastLine (prompt : String) {line : String} (h : PlainLine line) (hne : line ≠ "") :
    read prompt line = .line prompt line (.ended prompt)

/-- The lines as one input; whether the last is ended by a line feed, too, is a choice. -/
def inputOf (lines : List String) (ended : Bool) : String :=
  "\n".intercalate lines ++ if ended then "\n" else ""

/-- **The lines of an input are read one by one.** -/
theorem ReadsLines.read_inputOf {read : String → String → Readings} (h : ReadsLines read)
    {lines : List String} (hlines : lines ≠ [])
    (hplain : ∀ line ∈ lines, PlainLine line ∧ line ≠ "") (prompt : String) (ended : Bool) :
    read prompt (inputOf lines ended) = .ofLines prompt lines := by
  induction lines with
  | nil => contradiction
  | cons line lines ih =>
      obtain ⟨⟨hline, hne⟩, hrest⟩ := List.forall_mem_cons.mp hplain
      cases lines with
      | nil =>
          cases ended with
          | false => simpa [inputOf, Readings.ofLines] using h.lastLine prompt hline hne
          | true => simpa [inputOf, Readings.ofLines, h.ended] using h.line prompt hline ""
      | cons next lines =>
          have hinput : inputOf (line :: next :: lines) ended =
              line ++ "\n" ++ inputOf (next :: lines) ended := by
            simp [inputOf, String.intercalate_cons_cons, String.append_assoc]
          rw [hinput, h.line prompt hline, ih (List.cons_ne_nil next lines) hrest]
          rfl

/-! ## The line editor of the program -/

theorem splitLines_append {line : List Char} (h : '\n' ∉ line) (rest : List Char) :
    splitLines (line ++ '\n' :: rest) = line :: splitLines rest := by
  induction line with
  | nil => rfl
  | cons c line ih =>
      rw [List.mem_cons, not_or] at h
      rw [List.cons_append, splitLines.eq_3 _ _ fun heq => h.1 heq.symm, ih h.2]

theorem splitLines_of_notMem {line : List Char} (h : '\n' ∉ line) (hne : line ≠ []) :
    splitLines line = [line] := by
  induction line with
  | nil => contradiction
  | cons c line ih =>
      rw [List.mem_cons, not_or] at h
      rw [splitLines.eq_3 _ _ fun heq => h.1 heq.symm]
      cases line with
      | nil => rfl
      | cons d line => rw [ih h.2 (List.cons_ne_nil d line)]

theorem linesOf_append {line : String} (h : '\n' ∉ line.toList) (rest : String) :
    linesOf (line ++ "\n" ++ rest) = line :: linesOf rest := by
  simp [linesOf, splitLines_append h]

theorem linesOf_of_notMem {line : String} (h : '\n' ∉ line.toList) (hne : line ≠ "") :
    linesOf line = [line] := by
  have hnil : line.toList ≠ [] := fun h => hne (String.toList_eq_nil_iff.mp h)
  simp [linesOf, splitLines_of_notMem h hnil]

theorem readsLines_readLines : ReadsLines readLines where
  ended _ := rfl
  line prompt line h rest := by
    rw [readLines, linesOf_append h.noFeed, List.map_cons, typed_eq_self h.noBackspace]
    rfl
  lastLine prompt line h hne := by
    rw [readLines, linesOf_of_notMem h.noFeed hne, List.map_singleton, typed_eq_self h.noBackspace]
    rfl

end RelStore.Shell
