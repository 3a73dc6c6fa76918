import RelStore.Shell.Basic
import RelStore.Text.Grapheme

/-!
# A line editor

Off a terminal, a line editor prints the prompt and takes the input up to the next line feed, or
up to its end, until nothing is left.

A line may hold backspaces.  Each takes away the grapheme cluster before it that is left, and is
itself no part of the line; a backspace with nothing before it does nothing.

The line remembers how many bytes each of its clusters takes, in a byte of its own.  A cluster of
256 bytes or more is therefore remembered by its size modulo 256, and a backspace takes away only so
many bytes from the end.
-/

namespace RelStore

namespace Shell

/-! ## Lines of an input -/

/-- The characters up to each line feed, and those after the last if there are any. -/
def splitLines : List Char → List (List Char)
  | [] => []
  | '\n' :: cs => [] :: splitLines cs
  | c :: cs =>
    match splitLines cs with
    | line :: lines => (c :: line) :: lines
    | [] => [[c]]

/-- The lines of a text, without their line feeds. -/
def linesOf (text : String) : List String :=
  (splitLines text.toList).map String.ofList

/-! ## Lines as they were typed -/

/-- The backspace character. -/
def backspace : Char := '\x08'

/-- How many bytes the characters take. -/
def byteLength (cs : List Char) : Nat :=
  (String.ofList cs).utf8ByteSize

/-- The characters after those that the first `n` bytes hold. -/
def dropBytes (n : Nat) : List Char → List Char
  | [] => []
  | c :: cs => if n < c.utf8Size then c :: cs else dropBytes (n - c.utf8Size) cs

/-- What is left of a line while it is being read. -/
structure TypedLine where
  /-- The characters, last one first. -/
  characters : List Char := []
  /-- The remembered sizes of the clusters, last one first. -/
  sizes : List Nat := []
deriving DecidableEq, Repr

/-- The line with one more cluster read. -/
def TypedLine.read (line : TypedLine) (cluster : List Char) : TypedLine :=
  if cluster = [backspace] then
    match line.sizes with
    | [] => line
    | size :: sizes => ⟨dropBytes size line.characters, sizes⟩
  else ⟨cluster.reverse ++ line.characters, byteLength cluster % 256 :: line.sizes⟩

/-- The characters that a line amounts to. -/
def typedChars (cs : List Char) : List Char :=
  ((Text.clusters cs).foldl TypedLine.read {}).characters.reverse

/-- The line that a text amounts to. -/
def typed (line : String) : String :=
  String.ofList (typedChars line.toList)

private theorem characters_foldl_read {clusters : List (List Char)} (line : TypedLine)
    (h : [backspace] ∉ clusters) :
    (clusters.foldl TypedLine.read line).characters =
      clusters.flatten.reverse ++ line.characters := by
  induction clusters generalizing line with
  | nil => rfl
  | cons cluster clusters ih =>
    have hne : cluster ≠ [backspace] := fun heq => h (heq ▸ List.mem_cons_self)
    have hrest : [backspace] ∉ clusters := fun hmem => h (List.mem_cons_of_mem _ hmem)
    simp [ih _ hrest, TypedLine.read, hne]

/-- A line without backspaces is left as it is. -/
theorem typed_eq_self {line : String} (h : backspace ∉ line.toList) : typed line = line := by
  have hclusters : [backspace] ∉ Text.clusters line.toList := fun hmem => by
    refine h ?_
    rw [← Text.flatten_clusters line.toList]
    exact List.mem_flatten.2 ⟨_, hmem, List.mem_cons_self⟩
  simp [typed, typedChars, characters_foldl_read _ hclusters]

/-! ## Reading -/

/-- The lines read one by one, with nothing but the prompt printed. -/
def Readings.ofLines (prompt : String) (lines : List String) : Readings :=
  lines.foldr (fun line next => .line prompt line next) (.ended prompt)

/-- What the line editor gives, with a prompt, on an input. -/
def readLines (prompt input : String) : Readings :=
  .ofLines prompt ((linesOf input).map typed)

end Shell

end RelStore
