import RelStore.Text.GraphemeExtend
import RelStore.Text.Unprintable

/-!
# Quoted text

A text in double quotes, spelled so that each of its characters can be told from its neighbours:
the usual one-letter escapes, and the code point in braces for characters that are drawn on the one
before them or print nothing visible.
-/

namespace RelStore.Text

/-- A character as it stands between double quotes. -/
def quoteChar (c : Char) : List Char :=
  if c = '\x00' then ['\\', '0']
  else if c = '\t' then ['\\', 't']
  else if c = '\n' then ['\\', 'n']
  else if c = '\r' then ['\\', 'r']
  else if c = '"' ∨ c = '\\' then ['\\', c]
  else if isCombining c || isUnprintable c then
    ['\\', 'u', '\x7b'] ++ Nat.toDigits 16 c.toNat ++ ['\x7d']
  else [c]

/-- The text between double quotes. -/
def quote (s : String) : String :=
  String.ofList (['"'] ++ s.toList.flatMap quoteChar ++ ['"'])

end RelStore.Text
