/-!
# Letter case within ASCII

Keywords and table names are compared without regard to the case of the ASCII letters.  All other
characters, letters beyond ASCII among them, are compared as they are.
-/

namespace RelStore.Text

/-- The text with its ASCII letters in lower case. -/
def lowerAscii (s : String) : String :=
  String.ofList (s.toList.map Char.toLower)

/-- Whether two texts differ at most in the case of ASCII letters. -/
def equalsIgnoreCase (s t : String) : Bool :=
  s.toList.map Char.toLower == t.toList.map Char.toLower

theorem equalsIgnoreCase_eq_true_iff {s t : String} :
    equalsIgnoreCase s t = true ↔ lowerAscii s = lowerAscii t := by
  simp only [equalsIgnoreCase, lowerAscii, beq_iff_eq]
  exact ⟨fun h => by rw [h], fun h => by simpa using congrArg String.toList h⟩

@[simp] theorem equalsIgnoreCase_refl (s : String) : equalsIgnoreCase s s = true := by
  simp [equalsIgnoreCase]

end RelStore.Text
