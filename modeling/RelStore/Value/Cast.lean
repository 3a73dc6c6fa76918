import RelStore.Binary64.Decimal
import RelStore.Error
import RelStore.Text.Blank

/-!
# Casting to a column's type

A value is cast to the type of the column it is stored in.  A null stays a null; the rest is

| from \ to | `INT` | `TEXT` | `BOOLEAN` |
| --- | --- | --- | --- |
| truth value | 0 or 1 | its text | itself |
| integer | itself | its text | whether it is 1 |
| double | if whole and in range | its text | whether it is 1 |
| text | if it denotes a whole number in range | itself | whether it is `1` |

A literal that a column is compared with is cast in the same way, except that an `INT` column is
compared with a fractional number as it is.
-/

namespace RelStore

/-- The types of columns. -/
inductive ColumnType where
  /-- Integers of 64 bits. -/
  | integer
  /-- Texts. -/
  | text
  /-- Truth values. -/
  | boolean
deriving DecidableEq, Repr

namespace ColumnType

/-- The word for the type in a declaration. -/
def name : ColumnType → String
  | integer => "INT"
  | text => "TEXT"
  | boolean => "BOOLEAN"

/-- Whether a stored value may stand in a column of the type. -/
def Holds : ColumnType → Value → Prop
  | _, .null => True
  | integer, .integer _ => True
  | text, .text _ => True
  | boolean, .boolean _ => True
  | _, _ => False

end ColumnType

/-- The integer that a double denotes.  The double 2^63, one past the greatest integer, counts as
the greatest. -/
def integerOfDouble (x : Binary64) : Except Error Int64 :=
  if x.isWhole ∧ Int64.minValue.toInt ≤ x.wholePart ∧
      x.wholePart ≤ Int64.maxValue.toInt + 1 then
    .ok (.ofIntClamp x.wholePart)
  else .error (.invalidValue (.notIntegerNumber x))

/-- The integer that a text denotes once trimmed: as an integer numeral, or as a double. -/
def integerOfText (s : String) : Except Error Int64 :=
  let cs := Text.trimChars s.toList
  match (Text.readInteger? cs).bind int64? with
  | some i => .ok i
  | none =>
    match Binary64.read? cs with
    | some x => integerOfDouble x
    | none => .error (.invalidValue (.notIntegerText s))

namespace ColumnType

/-- The value as one of the type. -/
def cast : ColumnType → Value → Except Error Value
  | _, .null => .ok .null
  | integer, .integer i => .ok (.integer i)
  | integer, .boolean b => .ok (.integer (if b then 1 else 0))
  | integer, .float x => (integerOfDouble x).map .integer
  | integer, .text s => (integerOfText s).map .integer
  | boolean, .boolean b => .ok (.boolean b)
  | boolean, .integer i => .ok (.boolean (i == 1))
  | boolean, .float x => .ok (.boolean (x.sameValue (.ofInt 1)))
  | boolean, .text s => .ok (.boolean (s == "1"))
  | text, v => .ok (.text v.toText)

/-- The value as one to compare a column of the type with. -/
def castComparand : ColumnType → Value → Except Error Value
  | integer, .float x => if x.isFractional then .ok (.float x) else integer.cast (.float x)
  | integer, .text s =>
    match (Binary64.read? (Text.trimChars s.toList)).filter Binary64.isFractional with
    | some x => .ok (.float x)
    | none => integer.cast (.text s)
  | type, v => type.cast v

@[simp] theorem cast_null (type : ColumnType) : type.cast .null = .ok .null := by
  cases type <;> rfl

private theorem holds_integer_of_map {i? : Except Error Int64} {w : Value}
    (h : i?.map Value.integer = .ok w) : integer.Holds w := by
  cases i? with
  | error e => simp [Except.map] at h
  | ok i =>
    obtain rfl : Value.integer i = w := by simpa [Except.map] using h
    trivial

/-- A cast value may be stored in a column of the type. -/
theorem holds_of_cast {type : ColumnType} {v w : Value} (h : type.cast v = .ok w) :
    type.Holds w := by
  cases type <;> cases v <;> simp only [cast, Except.ok.injEq] at h
  case integer.float => exact holds_integer_of_map h
  case integer.text => exact holds_integer_of_map h
  all_goals
    subst h
    trivial

end ColumnType

/-- The value cast to the declared type, or as it is if none is known. -/
def castTo (type : Option ColumnType) (v : Value) : Except Error Value :=
  match type with
  | some type => type.cast v
  | none => .ok v

/-- The value to compare a column of the declared type with, or as it is if none is known. -/
def castComparandTo (type : Option ColumnType) (v : Value) : Except Error Value :=
  match type with
  | some type => type.castComparand v
  | none => .ok v

end RelStore
