import RelStore.Error
import RelStore.Text.Alphabetic
import RelStore.Text.Blank
import RelStore.Text.Numeric

/-!
# From text to tokens

A text is read from the left, blanks skipped and the longest token taken each time.  Reading stops
at the first place where no token begins, so what a text amounts to is the tokens before that place
and the fault there, if there is one: a `TokenStream`.

| begins with | token | goes on while |
| --- | --- | --- |
| a quote | text | no quote is met |
| an ASCII digit | number | ASCII digits, one point, ASCII digits |
| an alphabetic character, a low line | word or keyword | alphabetic, numeric, low line |
| a symbol's character | symbol | `>` and `<` take a following `=` |
-/

namespace RelStore

open Text

/-- The tokens of a text up to its first fault. -/
structure TokenStream where
  /-- The tokens. -/
  tokens : List Token
  /-- What stands where the tokens end, none if that is the end of the text. -/
  fault : Option SyntaxError
deriving DecidableEq, Repr

/-- Whether a word may begin with the character. -/
def startsWord (c : Char) : Bool :=
  isAlphabetic c || c == '_'

/-- Whether a word may go on with the character. -/
def continuesWord (c : Char) : Bool :=
  isAlphabetic c || isNumeric c || c == '_'

namespace Token

/-- The token that a word is. -/
def ofWord (cs : List Char) : Token :=
  let spelled := String.ofList cs
  match Keyword.ofWord? spelled with
  | some k => keyword k
  | none => word spelled

/-- Takes a number off characters that begin with a digit. -/
def takeNumber (cs : List Char) : Token × List Char :=
  let whole := String.ofList (cs.takeWhile Char.isDigit)
  match cs.dropWhile Char.isDigit with
  | '.' :: tail =>
    (number whole (some (String.ofList (tail.takeWhile Char.isDigit))),
      tail.dropWhile Char.isDigit)
  | rest => (number whole none, rest)

/-- Takes the longest symbol that begins with `c` off the characters. -/
def takeSymbol? (c : Char) (cs : List Char) : Option (Symbol × List Char) :=
  match c, cs with
  | '>', '=' :: rest => some (.greaterOrEqual, rest)
  | '<', '=' :: rest => some (.lessOrEqual, rest)
  | '>', rest => some (.greater, rest)
  | '<', rest => some (.less, rest)
  | '=', rest => some (.equal, rest)
  | '*', rest => some (.asterisk, rest)
  | '(', rest => some (.openParen, rest)
  | ')', rest => some (.closeParen, rest)
  | ',', rest => some (.comma, rest)
  | ';', rest => some (.semicolon, rest)
  | '.', rest => some (.period, rest)
  | '-', rest => some (.minus, rest)
  | _, _ => none

/-- Takes the token that begins with `c` off the characters `c :: cs`. -/
def take (c : Char) (cs : List Char) : Except SyntaxError (Token × List Char) :=
  if c = '\'' then
    match cs.dropWhile (· ≠ '\'') with
    | [] => .error .unterminatedText
    | _ :: rest => .ok (text (String.ofList (cs.takeWhile (· ≠ '\''))), rest)
  else if c.isDigit then .ok (takeNumber (c :: cs))
  else if startsWord c then
    .ok (ofWord (c :: cs.takeWhile continuesWord), cs.dropWhile continuesWord)
  else
    match takeSymbol? c cs with
    | some (s, rest) => .ok (symbol s, rest)
    | none => .error (.unexpectedCharacter c)

/-! ## Taking a token shortens the text -/

private theorem length_dropWhile_le (p : Char → Bool) (cs : List Char) :
    (cs.dropWhile p).length ≤ cs.length :=
  (List.dropWhile_suffix p).length_le

private theorem length_takeNumber_le {c : Char} {cs : List Char} (h : c.isDigit = true) :
    (takeNumber (c :: cs)).2.length ≤ cs.length := by
  have hdrop : (c :: cs).dropWhile Char.isDigit = cs.dropWhile Char.isDigit := by
    simp [h]
  have hle := length_dropWhile_le Char.isDigit cs
  simp only [takeNumber, hdrop]
  split
  next tail heq =>
    have htail := length_dropWhile_le Char.isDigit tail
    have hlength : (cs.dropWhile Char.isDigit).length = tail.length + 1 := by simp [heq]
    change (tail.dropWhile Char.isDigit).length ≤ cs.length
    omega
  next => exact hle

private theorem length_takeSymbol?_le {c : Char} {cs rest : List Char} {s : Symbol}
    (h : takeSymbol? c cs = some (s, rest)) : rest.length ≤ cs.length := by
  simp only [takeSymbol?] at h
  split at h <;> simp only [Option.some.injEq, Prod.mk.injEq, reduceCtorEq] at h <;>
    obtain ⟨-, rfl⟩ := h <;> simp

/-- At least the first character is taken. -/
theorem length_le_of_take {c : Char} {cs rest : List Char} {token : Token}
    (h : take c cs = .ok (token, rest)) : rest.length ≤ cs.length := by
  simp only [take] at h
  split at h
  · split at h
    · contradiction
    next rest' heq =>
      obtain ⟨-, rfl⟩ := Prod.mk.inj (Except.ok.inj h)
      have hle := length_dropWhile_le (· ≠ '\'') cs
      simp only [heq, List.length_cons] at hle
      omega
  · split at h
    next hdigit =>
      have hle : (takeNumber (c :: cs)).2.length ≤ cs.length := length_takeNumber_le hdigit
      rw [Except.ok.inj h] at hle
      exact hle
    next =>
      split at h
      · obtain ⟨-, rfl⟩ := Prod.mk.inj (Except.ok.inj h)
        exact length_dropWhile_le _ _
      · split at h
        next hsymbol =>
          obtain ⟨-, rfl⟩ := Prod.mk.inj (Except.ok.inj h)
          exact length_takeSymbol?_le hsymbol
        next => contradiction

end Token

namespace TokenStream

/-- The stream with one more token in front. -/
def cons (token : Token) (s : TokenStream) : TokenStream :=
  ⟨token :: s.tokens, s.fault⟩

/-- The tokens of the characters. -/
def ofChars (cs : List Char) : TokenStream :=
  match _hcs : cs.dropWhile isBlank with
  | [] => ⟨[], none⟩
  | c :: rest =>
    match _htake : Token.take c rest with
    | .error fault => ⟨[], some fault⟩
    | .ok (token, rest') => cons token (ofChars rest')
termination_by cs.length
decreasing_by
  have hdrop := (List.dropWhile_suffix isBlank (l := cs)).length_le
  have hrest := Token.length_le_of_take _htake
  simp only [_hcs, List.length_cons] at hdrop
  omega

/-- The tokens of a text. -/
def ofText (s : String) : TokenStream :=
  ofChars s.toList

end TokenStream

end RelStore
