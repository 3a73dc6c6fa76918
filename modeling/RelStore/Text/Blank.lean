/-!
# Blank characters

The characters with the White_Space property separate tokens, and are what trimming takes off the
two ends of a text.
-/

namespace RelStore.Text

/-- Whether the character has the White_Space property. -/
def isBlank (c : Char) : Bool :=
  let n := c.toNat
  (9 ≤ n && n ≤ 13) || n == 0x20 || n == 0x85 || n == 0xA0 || n == 0x1680 ||
    (0x2000 ≤ n && n ≤ 0x200A) || n == 0x2028 || n == 0x2029 || n == 0x202F || n == 0x205F ||
    n == 0x3000

/-! ## Trimming -/

/-- The characters without the blanks at their two ends. -/
def trimChars (cs : List Char) : List Char :=
  ((cs.dropWhile isBlank).reverse.dropWhile isBlank).reverse

/-- The text without the blanks at its two ends. -/
def trim (s : String) : String :=
  String.ofList (trimChars s.toList)

@[simp] theorem toList_trim (s : String) : (trim s).toList = trimChars s.toList := by
  simp [trim]

/-- A text that is trimmed does not end in a blank. -/
theorem isBlank_eq_false_of_trim_eq {s : String} (h : trim s = s) {c : Char}
    (hc : s.toList.getLast? = some c) : isBlank c = false := by
  rw [← h, toList_trim, trimChars, List.getLast?_reverse] at hc
  have hhead := List.head?_dropWhile_not isBlank (s.toList.dropWhile isBlank).reverse
  rw [hc] at hhead
  simpa using hhead

end RelStore.Text
