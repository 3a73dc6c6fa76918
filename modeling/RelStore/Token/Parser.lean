import RelStore.Token.Stream

/-!
# Parsers of tokens

A `Parser` reads tokens from the front of a list and answers a value and the tokens left, or an
error.  That it reads from the front only is a law of the type: the tokens left are a suffix of
those given.  What stands where the tokens end, the end of the text or a fault of it, is known to
every parser and met by those that look for a token there.

Three ways of looking ahead differ at a fault.  `peek?` and `next` report it; `takeIf?` and
`accept` find no token there and go on, which loses nothing because whatever is read later meets
the same fault.

`loop` repeats a step while the step asks for it.  A step that read no token is not repeated, so
the tokens left bound the number of repetitions.
-/

namespace RelStore

/-- A reader of values of type `α` from the front of a list of tokens. -/
structure Parser (α : Type) where
  /-- What is read from the tokens, given the fault that stands at their end. -/
  run : Option SyntaxError → List Token → Except Error (α × List Token)
  /-- Tokens are read from the front only. -/
  suffix_of_run {fault : Option SyntaxError} {tokens rest : List Token} {a : α} :
    run fault tokens = .ok (a, rest) → rest <:+ tokens

namespace Parser

variable {α β σ : Type}

/-- Reads nothing. -/
protected def pure (a : α) : Parser α where
  run _ tokens := .ok (a, tokens)
  suffix_of_run h := by
    obtain ⟨-, rfl⟩ := Prod.mk.inj (Except.ok.inj h)
    exact List.suffix_rfl

/-- Reads with one parser and then with another. -/
protected def bind (p : Parser α) (f : α → Parser β) : Parser β where
  run fault tokens :=
    match p.run fault tokens with
    | .ok (a, rest) => (f a).run fault rest
    | .error e => .error e
  suffix_of_run h := by
    split at h
    next hp => exact ((f _).suffix_of_run h).trans (p.suffix_of_run hp)
    next => contradiction

instance : Monad Parser where
  pure := Parser.pure
  bind := Parser.bind

/-- Fails. -/
def fail (e : Error) : Parser α where
  run _ _ := .error e
  suffix_of_run := nofun

/-- Fails because of the shape of the text. -/
def malformed (cause : SyntaxError) : Parser α :=
  fail (.malformed cause)

/-- The next token, left where it is; none at the end of the text, and an error at a fault. -/
def peek? : Parser (Option Token) where
  run fault tokens :=
    match tokens, fault with
    | token :: _, _ => .ok (some token, tokens)
    | [], some cause => .error (.malformed cause)
    | [], none => .ok (none, tokens)
  suffix_of_run h := by
    split at h
    · obtain ⟨-, rfl⟩ := Prod.mk.inj (Except.ok.inj h)
      exact List.suffix_rfl
    · contradiction
    · obtain ⟨-, rfl⟩ := Prod.mk.inj (Except.ok.inj h)
      exact List.suffix_rfl

/-- Reads the next token. -/
def next : Parser Token where
  run fault tokens :=
    match tokens with
    | token :: rest => .ok (token, rest)
    | [] => .error (.malformed (fault.getD .unexpectedEnd))
  suffix_of_run h := by
    split at h
    · obtain ⟨-, rfl⟩ := Prod.mk.inj (Except.ok.inj h)
      exact List.suffix_cons _ _
    · contradiction

/-- Reads the next token if there is one with the property. -/
def takeIf? (p : Token → Bool) : Parser (Option Token) where
  run _ tokens :=
    match tokens with
    | token :: rest => if p token then .ok (some token, rest) else .ok (none, tokens)
    | [] => .ok (none, tokens)
  suffix_of_run h := by
    split at h
    · split at h <;> obtain ⟨-, rfl⟩ := Prod.mk.inj (Except.ok.inj h)
      · exact List.suffix_cons _ _
      · exact List.suffix_rfl
    · obtain ⟨-, rfl⟩ := Prod.mk.inj (Except.ok.inj h)
      exact List.suffix_rfl

/-- Reads the token if it is the next, and answers whether it was. -/
def accept (token : Token) : Parser Bool := do
  return (← takeIf? (· == token)).isSome

/-- Reads the token, which has to be the next. -/
def expect (token : Token) : Parser Unit := do
  let actual ← next
  if actual ≠ token then malformed (.expectedToken token actual)

/-! ## Repetition -/

/-- Runs the step on the state as long as it asks for more and reads something. -/
def runLoop (step : σ → Parser (σ × Bool)) (fault : Option SyntaxError) (state : σ)
    (tokens : List Token) : Except Error (σ × List Token) :=
  match (step state).run fault tokens with
  | .error e => .error e
  | .ok ((state', more), rest) =>
    if _h : more = true ∧ rest.length < tokens.length then runLoop step fault state' rest
    else .ok (state', rest)
termination_by tokens.length
decreasing_by exact _h.2

private theorem suffix_of_runLoop {step : σ → Parser (σ × Bool)} {fault : Option SyntaxError}
    {state state' : σ} {tokens rest : List Token}
    (h : runLoop step fault state tokens = .ok (state', rest)) : rest <:+ tokens := by
  fun_induction runLoop step fault state tokens with
  | case1 => contradiction
  | case2 state tokens state₁ more rest₁ hstep _ ih =>
    exact (ih h).trans ((step state).suffix_of_run hstep)
  | case3 state tokens state₁ more rest₁ hstep _ =>
    obtain ⟨-, rfl⟩ := Prod.mk.inj (Except.ok.inj h)
    exact (step state).suffix_of_run hstep

/-- Repeats the step, from the given state, while it asks for more. -/
def loop (state : σ) (step : σ → Parser (σ × Bool)) : Parser σ where
  run fault tokens := runLoop step fault state tokens
  suffix_of_run := suffix_of_runLoop

/-- Reads one item and then one more after each comma. -/
def commaSeparated (item : Parser α) : Parser (List α) :=
  loop [] fun items => do
    let a ← item
    return (items ++ [a], ← accept (.symbol .comma))

/-! ## What each parser does to the tokens -/

@[simp] theorem run_pure (a : α) (fault : Option SyntaxError) (tokens : List Token) :
    (pure a : Parser α).run fault tokens = .ok (a, tokens) := rfl

theorem run_bind (p : Parser α) (f : α → Parser β) (fault : Option SyntaxError)
    (tokens : List Token) :
    (p >>= f).run fault tokens =
      match p.run fault tokens with
      | .ok (a, rest) => (f a).run fault rest
      | .error e => .error e := rfl

@[simp] theorem run_next_cons (token : Token) (fault : Option SyntaxError) (rest : List Token) :
    next.run fault (token :: rest) = .ok (token, rest) := rfl

@[simp] theorem run_next_nil (fault : Option SyntaxError) :
    next.run fault [] = .error (.malformed (fault.getD .unexpectedEnd)) := rfl

@[simp] theorem run_peek?_cons (token : Token) (fault : Option SyntaxError) (rest : List Token) :
    peek?.run fault (token :: rest) = .ok (some token, token :: rest) := rfl

end Parser

end RelStore
