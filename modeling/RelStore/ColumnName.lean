/-!
# Qualified column names

A column of a joined table is named by a qualifier, a point and the column's own name.  The
qualifier ends at the first point.
-/

namespace RelStore

/-- The column's name behind the qualifier. -/
def qualify (qualifier column : String) : String :=
  qualifier ++ "." ++ column

/-- The parts before and after the first point, if there is one. -/
def splitQualified? (name : String) : Option (String × String) :=
  match name.toList.dropWhile (· ≠ '.') with
  | _ :: column => some (String.ofList (name.toList.takeWhile (· ≠ '.')), String.ofList column)
  | [] => none

/-- The part before the first point, if there is one. -/
def qualifierOf? (name : String) : Option String :=
  (splitQualified? name).map (·.1)

/-- The part after the first point, if there is one. -/
def unqualified? (name : String) : Option String :=
  (splitQualified? name).map (·.2)

/-- The name without the qualifier and its point, if it begins with them; otherwise the name. -/
def stripQualifier (qualifier name : String) : String :=
  match (qualifier.toList ++ ['.']).isPrefixOf? name.toList with
  | some column => String.ofList column
  | none => name

/-- A qualifier without a point is found again. -/
theorem splitQualified?_qualify {qualifier column : String} (h : '.' ∉ qualifier.toList) :
    splitQualified? (qualify qualifier column) = some (qualifier, column) := by
  have hne : ∀ c ∈ qualifier.toList, decide (c ≠ '.') = true := fun c hc => by
    simpa using fun (heq : c = '.') => h (heq ▸ hc)
  have hchars : (qualify qualifier column).toList = qualifier.toList ++ '.' :: column.toList := by
    simp [qualify]
  have hdrop : (qualify qualifier column).toList.dropWhile (· ≠ '.') = '.' :: column.toList := by
    rw [hchars, List.dropWhile_append_of_pos hne]
    simp
  have htake : (qualify qualifier column).toList.takeWhile (· ≠ '.') = qualifier.toList := by
    rw [hchars, List.takeWhile_append_of_pos hne]
    simp
  simp only [splitQualified?, hdrop, htake, String.ofList_toList]

/-- A name without a point has no qualifier. -/
theorem splitQualified?_eq_none {name : String} (h : '.' ∉ name.toList) :
    splitQualified? name = none := by
  have hne : ∀ c ∈ name.toList, decide (c ≠ '.') = true := fun c hc => by
    simpa using fun (heq : c = '.') => h (heq ▸ hc)
  have happend : (name.toList ++ []).dropWhile (· ≠ '.') = [].dropWhile (· ≠ '.') :=
    List.dropWhile_append_of_pos hne
  have hdrop : name.toList.dropWhile (· ≠ '.') = [] := by simpa using happend
  simp only [splitQualified?, hdrop]

theorem point_mem_qualify (qualifier column : String) :
    '.' ∈ (qualify qualifier column).toList := by
  simp [qualify]

theorem unqualified?_qualify {qualifier column : String} (h : '.' ∉ qualifier.toList) :
    unqualified? (qualify qualifier column) = some column := by
  rw [unqualified?, splitQualified?_qualify h]
  rfl

theorem unqualified?_eq_none {name : String} (h : '.' ∉ name.toList) :
    unqualified? name = none := by
  rw [unqualified?, splitQualified?_eq_none h]
  rfl

end RelStore
