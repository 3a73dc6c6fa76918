import RelStore.Proofs.Failure
import RelStore.Proofs.Text.SingleLine

/-!
# Messages and the texts that they quote

A message shows what it is about as it is.  Most of that is a single line whatever the statement: a
name, a number, a symbol.  The exception is a text, which a statement may give between quotes with
line ends in it.  An error shows at most one (`Error.quoted?`).

| error | text shown |
| --- | --- |
| a token that is out of place | the token, if it is a text |
| a text that is no integer | the text |
| a key that is taken | the key, if it is a text |
| a value that is no number | the value, if it is a text |

`Error.SingleLineUnless` says of an error that its message breaks only for such a text, and only for
one of some texts.  That is kept by every computation that fails only so, which is how the later
modules go through all errors there are.
-/

namespace RelStore

open Text

/-- The text that the token is. -/
def Token.quoted? : Token → Option String
  | text s => some s
  | _ => none

/-- The text that the value is. -/
def Value.quoted? : Value → Option String
  | text s => some s
  | _ => none

/-- The text that the message shows. -/
def SyntaxError.quoted? : SyntaxError → Option String
  | unexpectedToken t => t.quoted?
  | expectedToken _ actual => actual.quoted?
  | expectedName actual => actual.quoted?
  | expectedComparison actual => actual.quoted?
  | invalidLiteral actual => actual.quoted?
  | invalidNegative actual => actual.quoted?
  | expectedCount actual => actual.quoted?
  | _ => none

/-- The text that the message shows. -/
def ValueError.quoted? : ValueError → Option String
  | notIntegerNumber _ => none
  | notIntegerText s => some s
  | notNumeric v => v.quoted?

/-- The text that the message shows. -/
def Error.quoted? : Error → Option String
  | unsupportedStatement first => first.bind Token.quoted?
  | malformed cause => cause.quoted?
  | duplicateKey _ value => value.quoted?
  | invalidValue cause => cause.quoted?
  | _ => none

theorem Token.eq_of_quoted? {t : Token} {s : String} (h : s ∈ t.quoted?) : t = .text s := by
  cases t <;> cases h
  rfl

theorem Value.eq_of_quoted? {v : Value} {s : String} (h : s ∈ v.quoted?) : v = .text s := by
  cases v <;> cases h
  rfl

/-! ## Messages -/

theorem SyntaxError.singleLine_of_quoted? {cause : SyntaxError} {s : String}
    (h : s ∈ cause.quoted?) : SingleLine cause.message → SingleLine s := by
  cases cause <;> try contradiction
  all_goals
    obtain rfl := Token.eq_of_quoted? h
    exact fun hmessage => (singleLine_append.mp hmessage).2

theorem ValueError.singleLine_of_quoted? {cause : ValueError} {s : String}
    (h : s ∈ cause.quoted?) : SingleLine cause.message → SingleLine s := by
  intro hmessage
  cases cause with
  | notIntegerNumber x => cases h
  | notIntegerText _ =>
      cases h
      exact (singleLine_append.mp (singleLine_append.mp hmessage).1).2
  | notNumeric v =>
      obtain rfl := Value.eq_of_quoted? h
      exact (singleLine_append.mp hmessage).1

/-- The text stands in the message as it is. -/
theorem Error.singleLine_of_quoted? {e : Error} {s : String} (h : s ∈ e.quoted?) :
    SingleLine e.message → SingleLine s := by
  intro hmessage
  cases e with
  | unsupportedStatement first =>
      obtain ⟨t, rfl, ht⟩ := Option.bind_eq_some_iff.mp h
      obtain rfl := Token.eq_of_quoted? ht
      exact (singleLine_append.mp hmessage).2
  | malformed cause => exact cause.singleLine_of_quoted? h (singleLine_append.mp hmessage).2
  | duplicateKey column value =>
      obtain rfl := Value.eq_of_quoted? h
      exact (singleLine_append.mp (singleLine_append.mp hmessage).1).2
  | invalidValue cause => exact cause.singleLine_of_quoted? h (singleLine_append.mp hmessage).2
  | _ => cases h

/-! ## Messages that break for nothing else -/

section Unless

variable (texts : String → Prop)

/-- The message is a single line, or it shows one of the texts, and that is none.  Internal errors,
which no statement leads to, are left out. -/
def Error.SingleLineUnless (e : Error) : Prop :=
  (∃ cause, e = .internal cause) ∨ SingleLine e.message ∨
    ∃ s ∈ e.quoted?, ¬ SingleLine s ∧ texts s

variable {texts}

namespace Error

/-- **A message breaks just if the text that it shows does**, and then that is one of the texts. -/
theorem SingleLineUnless.singleLine_iff {e : Error} (h : e.SingleLineUnless texts)
    (hinternal : ∀ cause, e ≠ .internal cause) :
    (SingleLine e.message ↔ ∀ s ∈ e.quoted?, SingleLine s) ∧
      ∀ s ∈ e.quoted?, SingleLine s ∨ texts s := by
  obtain ⟨cause, rfl⟩ | hmessage | ⟨s, hs, hbroken, htext⟩ := h
  · exact absurd rfl (hinternal cause)
  · have hquoted : ∀ s ∈ e.quoted?, SingleLine s := fun s hs => singleLine_of_quoted? hs hmessage
    exact ⟨iff_of_true hmessage hquoted, fun s hs => .inl (hquoted s hs)⟩
  · refine ⟨iff_of_false (fun hmessage => hbroken (singleLine_of_quoted? hs hmessage))
      fun hquoted => hbroken (hquoted s hs), fun s' hs' => .inr ?_⟩
    -- an error shows one text at most
    rwa [Option.mem_unique hs' hs]

theorem singleLineUnless_internal (cause : InternalError) :
    (internal cause).SingleLineUnless texts :=
  .inl ⟨cause, rfl⟩

theorem singleLineUnless_of_singleLine {e : Error} (h : SingleLine e.message) :
    e.SingleLineUnless texts :=
  .inr (.inl h)

/-- What stands around a text that is shown is a single line. -/
theorem singleLineUnless_of_quoted {e : Error} {before s after : String} (hs : s ∈ e.quoted?)
    (hmessage : e.message = before ++ s ++ after) (hbefore : SingleLine before)
    (hafter : SingleLine after) (htext : SingleLine s ∨ texts s) : e.SingleLineUnless texts := by
  by_cases hsingle : SingleLine s
  · refine singleLineUnless_of_singleLine ?_
    rw [hmessage]
    exact (hbefore.append hsingle).append hafter
  · exact .inr (.inr ⟨s, hs, hsingle, htext.resolve_left hsingle⟩)

/-! ### Tokens that are out of place -/

/-- The message ends with the token that it is about. -/
theorem singleLineUnless_of_token {e : Error} {before : String} {t : Token}
    (hmessage : e.message = before ++ t.toText) (hquoted : e.quoted? = t.quoted?)
    (hbefore : SingleLine before) (ht : t.SingleLineUnless texts) : e.SingleLineUnless texts := by
  obtain hsingle | ⟨s, rfl, htext⟩ := ht
  · refine singleLineUnless_of_singleLine ?_
    rw [hmessage]
    exact hbefore.append hsingle
  · have hmessage' : e.message = before ++ s ++ "" := by
      rw [hmessage, String.append_empty]
      rfl
    exact singleLineUnless_of_quoted (hquoted ▸ rfl) hmessage' hbefore (by decide) (.inr htext)

theorem singleLineUnless_malformed {cause : SyntaxError} {before : String} {t : Token}
    (hmessage : cause.message = before ++ t.toText) (hquoted : cause.quoted? = t.quoted?)
    (hbefore : SingleLine before) (ht : t.SingleLineUnless texts) :
    (malformed cause).SingleLineUnless texts := by
  have hmessage' : (malformed cause).message = "syntax error: " ++ before ++ t.toText := by
    rw [String.append_assoc, ← hmessage]
    rfl
  exact singleLineUnless_of_token hmessage' hquoted (.append (by decide) hbefore) ht

theorem singleLineUnless_unsupportedStatement {first : Option Token}
    (ht : ∀ t ∈ first, t.SingleLineUnless texts) :
    (unsupportedStatement first).SingleLineUnless texts := by
  cases first with
  | none => exact singleLineUnless_of_singleLine (by decide)
  | some t => exact singleLineUnless_of_token rfl rfl (by decide) (ht t rfl)

/-! ### Names -/

variable {name : String}

theorem singleLineUnless_columnNotFound (h : SingleLine name) :
    (columnNotFound name).SingleLineUnless texts :=
  singleLineUnless_of_singleLine ((SingleLine.append (by decide) h).append (by decide))

theorem singleLineUnless_tableNotFound (h : SingleLine name) :
    (tableNotFound name).SingleLineUnless texts :=
  singleLineUnless_of_singleLine ((SingleLine.append (by decide) h).append (by decide))

theorem singleLineUnless_tableExists (h : SingleLine name) :
    (tableExists name).SingleLineUnless texts :=
  singleLineUnless_of_singleLine ((SingleLine.append (by decide) h).append (by decide))

theorem singleLineUnless_missingColumn (h : SingleLine name) :
    (missingColumn name).SingleLineUnless texts :=
  singleLineUnless_of_singleLine (.append (by decide) h)

/-! ### Values -/

/-- The message shows the value somewhere. -/
theorem singleLineUnless_of_value {e : Error} {before after : String} {v : Value}
    (hmessage : e.message = before ++ v.toText ++ after) (hquoted : e.quoted? = v.quoted?)
    (hbefore : SingleLine before) (hafter : SingleLine after) (hv : v.SingleLineUnless texts) :
    e.SingleLineUnless texts := by
  obtain hsingle | ⟨s, rfl, htext⟩ := hv
  · refine singleLineUnless_of_singleLine ?_
    rw [hmessage]
    exact (hbefore.append hsingle).append hafter
  · exact singleLineUnless_of_quoted (hquoted ▸ rfl) hmessage hbefore hafter (.inr htext)

variable {v : Value}

theorem singleLineUnless_duplicateKey (h : SingleLine name) (hv : v.SingleLineUnless texts) :
    (duplicateKey name v).SingleLineUnless texts :=
  singleLineUnless_of_value rfl rfl ((SingleLine.append (by decide) h).append (by decide))
    (by decide) hv

theorem singleLineUnless_notIntegerNumber (x : Binary64) :
    (invalidValue (.notIntegerNumber x)).SingleLineUnless texts :=
  singleLineUnless_of_singleLine
    (.append (by decide) (x.plain_toText.singleLine.append (by decide)))

theorem singleLineUnless_notIntegerText {s : String} (h : (Value.text s).SingleLineUnless texts) :
    (invalidValue (.notIntegerText s)).SingleLineUnless texts := by
  have hmessage : (invalidValue (.notIntegerText s)).message =
      "invalid value: " ++ "'" ++ (Value.text s).toText ++ "' is not a valid INT" := by
    simp only [String.append_assoc]
    rfl
  exact singleLineUnless_of_value hmessage rfl (by decide) (by decide) h

theorem singleLineUnless_notNumeric (h : v.SingleLineUnless texts) :
    (invalidValue (.notNumeric v)).SingleLineUnless texts := by
  have hmessage : (invalidValue (.notNumeric v)).message =
      "invalid value: " ++ v.toText ++ " is not numeric" := by
    rw [String.append_assoc]
    rfl
  exact singleLineUnless_of_value hmessage rfl (by decide) (by decide) h

end Error

end Unless

end RelStore
