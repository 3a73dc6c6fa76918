import RelStore.Token.Stream

/-!
# Written tokens

A `Lexeme` is a token together with the characters it is written with: a keyword may be written in
either letter case, and stands for a name in lower case.  A list of lexemes is laid out as one text,
with a space between two neighbours that are to stand apart.  Which do is a layout.

| layout | no space |
| --- | --- |
| `standsApart` | after a minus sign |
| `standsApartTight` | after a minus sign or `(`, before `)` or a comma |

Either leaves a space between two lexemes that would otherwise be read as one token, so reading the
text finds the tokens again.
-/

namespace RelStore

/-- A token and the text it is written as. -/
structure Lexeme where
  /-- The token. -/
  token : Token
  /-- The text. -/
  written : String
deriving DecidableEq, Repr

namespace Lexeme

/-- A keyword in upper case. -/
def keyword (k : Keyword) : Lexeme :=
  ⟨.keyword k, k.spelling⟩

/-- A keyword in lower case, as literals are written. -/
def lowerKeyword (k : Keyword) : Lexeme :=
  ⟨.keyword k, k.asName⟩

/-- A name, which may be that of a keyword. -/
def name (s : String) : Lexeme :=
  ⟨.ofWord s.toList, s⟩

/-- A text between quotes. -/
def text (s : String) : Lexeme :=
  ⟨.text s, "'" ++ s ++ "'"⟩

/-- A number. -/
def number (whole : String) (fraction : Option String) : Lexeme :=
  ⟨.number whole fraction, (Token.number whole fraction).toText⟩

/-- A symbol. -/
def symbol (s : Symbol) : Lexeme :=
  ⟨.symbol s, s.spelling⟩

/-- The layout with a space between any two lexemes but a minus sign and its number. -/
def standsApart (lexeme _next : Lexeme) : Bool :=
  lexeme != symbol .minus

/-- The layout that also keeps parentheses and commas close to what they enclose and follow. -/
def standsApartTight (lexeme next : Lexeme) : Bool :=
  standsApart lexeme next && lexeme != symbol .openParen &&
    next != symbol .closeParen && next != symbol .comma

/-- The lexemes as one text, neighbours that are to stand apart separated by a space. -/
def layOut (apart : Lexeme → Lexeme → Bool) : List Lexeme → String
  | [] => ""
  | [lexeme] => lexeme.written
  | lexeme :: next :: rest =>
    lexeme.written ++ (if apart lexeme next then " " else "") ++ layOut apart (next :: rest)

end Lexeme

end RelStore
