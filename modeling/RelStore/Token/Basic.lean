import RelStore.Token.Keyword

/-!
# Tokens

The words, literals and symbols that a statement is made of.  A number is kept as its digits, so
that how large it may be is decided where it is used; a text is kept without its quotes.
-/

namespace RelStore

/-- The punctuation marks and comparison signs. -/
inductive Symbol where
  | openParen | closeParen | comma | semicolon | asterisk | period | minus
  | equal | greater | less | greaterOrEqual | lessOrEqual
deriving DecidableEq, Repr

/-- The characters of a symbol. -/
def Symbol.spelling : Symbol → String
  | openParen => "("
  | closeParen => ")"
  | comma => ","
  | semicolon => ";"
  | asterisk => "*"
  | period => "."
  | minus => "-"
  | equal => "="
  | greater => ">"
  | less => "<"
  | greaterOrEqual => ">="
  | lessOrEqual => "<="

/-- A token. -/
inductive Token where
  /-- A keyword, however it was written. -/
  | keyword (k : Keyword)
  /-- A word that is no keyword, as it was written. -/
  | word (s : String)
  /-- A quoted text, without its quotes. -/
  | text (s : String)
  /-- The digits of a number, and those after its point if it has one. -/
  | number (whole : String) (fraction : Option String)
  /-- A punctuation mark or comparison sign. -/
  | symbol (s : Symbol)
deriving DecidableEq, Repr

/-- A token as messages show it: keywords in upper case, texts without quotes. -/
def Token.toText : Token → String
  | keyword k => k.spelling
  | word s => s
  | text s => s
  | number whole none => whole
  | number whole (some fraction) => whole ++ "." ++ fraction
  | symbol s => s.spelling

end RelStore
