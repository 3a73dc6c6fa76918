import RelStore.Text.AsciiCase

/-!
# Keywords

The words with a meaning of their own in statements.  A word is matched without regard to ASCII
letter case.  Some keywords are reserved; the others also serve as names, in lower case, wherever
a name is due.
-/

namespace RelStore

/-- A keyword.  Those that are also words of this language carry the suffix `Word`. -/
inductive Keyword where
  | create | table | primary | key
  | int | integer | text | varchar | string | boolean | bool
  | select | distinct | fromWord | asWord | join | inner | left | right | full | outer | onWord
  | whereWord | and | or | group | byWord | having | order | asc | desc | limit | offset
  | insert | into | values | update | set | delete
  | true | false | null
deriving DecidableEq, Repr

namespace Keyword

/-- Every keyword. -/
def all : List Keyword :=
  [create, table, primary, key, int, integer, text, varchar, string, boolean, bool,
    select, distinct, fromWord, asWord, join, inner, left, right, full, outer, onWord,
    whereWord, and, or, group, byWord, having, order, asc, desc, limit, offset,
    insert, into, values, update, set, delete, true, false, null]

/-- The word in upper case. -/
def spelling : Keyword → String
  | create => "CREATE"
  | table => "TABLE"
  | primary => "PRIMARY"
  | key => "KEY"
  | int => "INT"
  | integer => "INTEGER"
  | text => "TEXT"
  | varchar => "VARCHAR"
  | string => "STRING"
  | boolean => "BOOLEAN"
  | bool => "BOOL"
  | select => "SELECT"
  | distinct => "DISTINCT"
  | fromWord => "FROM"
  | asWord => "AS"
  | join => "JOIN"
  | inner => "INNER"
  | left => "LEFT"
  | right => "RIGHT"
  | full => "FULL"
  | outer => "OUTER"
  | onWord => "ON"
  | whereWord => "WHERE"
  | and => "AND"
  | or => "OR"
  | group => "GROUP"
  | byWord => "BY"
  | having => "HAVING"
  | order => "ORDER"
  | asc => "ASC"
  | desc => "DESC"
  | limit => "LIMIT"
  | offset => "OFFSET"
  | insert => "INSERT"
  | into => "INTO"
  | values => "VALUES"
  | update => "UPDATE"
  | set => "SET"
  | delete => "DELETE"
  | true => "TRUE"
  | false => "FALSE"
  | null => "NULL"

/-- The keyword that a word is, in whatever case it is written. -/
def ofWord? (word : String) : Option Keyword :=
  all.find? fun keyword => Text.equalsIgnoreCase keyword.spelling word

/-- Whether the word is never a name: all keywords are but the type names, the join kinds, the
sort directions and a few words of clauses. -/
def isReserved : Keyword → Bool
  | key | int | integer | text | varchar | string | boolean | bool
  | inner | left | right | full | outer | asc | desc | limit | offset | values | set => Bool.false
  | _ => Bool.true

/-- The name that a keyword stands for where a name is due. -/
def asName (keyword : Keyword) : String :=
  Text.lowerAscii keyword.spelling

/-- No keyword is missing from the list. -/
theorem mem_all (keyword : Keyword) : keyword ∈ all := by
  cases keyword <;> decide

end Keyword

end RelStore
