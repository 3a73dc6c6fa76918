import RelStore.Grammar.Statement
import RelStore.Proofs.Token.Lexed

/-!
# One list of tokens, many texts

A `Writing` of a list of tokens is a way to write them down: each token in one of its spellings
(`Spells`: a keyword in any mixture of the two letter cases, a text between quotes, anything else as
it is), some blanks between two neighbours and as many as one likes at the two ends.

The text of a writing is read as the tokens and nothing else, so a statement does not depend on how
it is written (`Statement.parse_writing`).  The tokens that can be written are those of
`Token.Lexable`, and any list of them can be (`nonempty_writing_iff`).
-/

namespace RelStore

open Text

/-! ## The tokens that can be written -/

/-- What a token's characters must be for some text to be read as it. -/
def Token.Lexable : Token → Prop
  | keyword _ => True
  | word s => isWord s.toList = true ∧ Keyword.ofWord? s = none
  | text s => '\'' ∉ s.toList
  | number whole fraction =>
    isDigits whole.toList = true ∧ ∀ digits ∈ fraction, ∀ c ∈ digits.toList, c.isDigit = true
  | symbol _ => True

theorem Token.spellable_iff (t : Token) : t.Spellable ↔ t.Lexable := by
  constructor
  · rintro ⟨cs, h⟩
    cases h with
    | keyword h => trivial
    | word hword hkeyword => exact ⟨hword, hkeyword⟩
    | text h => exact h
    | whole h => exact ⟨h, nofun⟩
    | fraction h hfraction => exact ⟨h, fun _ hdigits => Option.some.inj hdigits ▸ hfraction⟩
    | symbol => trivial
  · intro h
    cases t with
    | keyword k => exact ⟨k.spelling.toList, .keyword (by cases k <;> decide)⟩
    | word s => exact ⟨_, .word h.1 h.2⟩
    | text s => exact ⟨_, .text h⟩
    | number whole fraction =>
        cases fraction with
        | none => exact ⟨_, .whole h.1⟩
        | some digits => exact ⟨_, .fraction h.1 (h.2 digits rfl)⟩
    | symbol s => exact ⟨_, .symbol⟩

/-! ## Writings -/

/-- A token in one of its spellings, after some blanks. -/
structure Piece where
  /-- The blanks before the token. -/
  gap : String
  /-- The token. -/
  token : Token
  /-- The characters it is written with. -/
  spelling : String
  blank : ∀ c ∈ gap.toList, isBlank c = true
  spells : Spells token spelling.toList

/-- The text of the pieces in order, and of what comes after them. -/
def Piece.textOf (last : String) : List Piece → String
  | [] => last
  | p :: ps => p.gap ++ (p.spelling ++ textOf last ps)

/-- A way to write down the tokens. -/
structure Writing (ts : List Token) where
  /-- The tokens, each with its spelling and the blanks before it. -/
  pieces : List Piece
  /-- The blanks after the last token. -/
  last : String
  tokens_eq : pieces.map Piece.token = ts
  /-- There is a blank between two neighbours. -/
  apart : ∀ p ∈ pieces.tail, p.gap ≠ ""
  blank_last : ∀ c ∈ last.toList, isBlank c = true

/-- The text that is written. -/
def Writing.text {ts : List Token} (w : Writing ts) : String :=
  Piece.textOf w.last w.pieces

namespace Piece

variable {last : String} {ps : List Piece}

/-- What follows a token begins with a blank, if with anything. -/
theorem isBlank_of_mem_head?_textOf (hlast : ∀ c ∈ last.toList, isBlank c = true)
    (hapart : ∀ p ∈ ps, p.gap ≠ "") :
    ∀ c ∈ (textOf last ps).toList.head?, isBlank c = true := by
  intro c hc
  cases ps with
  | nil => exact hlast c (List.mem_of_mem_head? hc)
  | cons p ps =>
      have hgap : p.gap.toList ≠ [] := by
        simpa using hapart p List.mem_cons_self
      obtain ⟨d, tail, hd⟩ := List.exists_cons_of_ne_nil hgap
      rw [textOf, String.toList_append, hd] at hc
      obtain rfl : d = c := Option.some.inj hc
      exact p.blank d (hd ▸ List.mem_cons_self)

theorem written_textOf (hlast : ∀ c ∈ last.toList, isBlank c = true)
    (hapart : ∀ p ∈ ps.tail, p.gap ≠ "") :
    Written (ps.map Piece.token) (textOf last ps).toList := by
  induction ps with
  | nil => exact .nil hlast
  | cons p ps ih =>
      rw [textOf, String.toList_append, String.toList_append]
      refine .cons p.blank p.spells ?_ (ih fun q hq => hapart q (List.mem_of_mem_tail hq))
      exact fun d hd => extendedBy_of_isBlank (isBlank_of_mem_head?_textOf hlast hapart d hd) _

end Piece

/-- The tokens can be written exactly if each of them can. -/
theorem nonempty_writing_iff (ts : List Token) :
    Nonempty (Writing ts) ↔ ∀ t ∈ ts, t.Lexable := by
  constructor
  · rintro ⟨w⟩ t ht
    rw [← w.tokens_eq] at ht
    obtain ⟨p, -, rfl⟩ := List.mem_map.mp ht
    exact p.token.spellable_iff.mp ⟨_, p.spells⟩
  · intro h
    have hblank : ∀ c ∈ " ".toList, isBlank c = true := by
      intro c hc
      obtain rfl : c = ' ' := by simpa using hc
      decide
    obtain ⟨ps, htokens, hgap⟩ :
        ∃ ps : List Piece, ps.map Piece.token = ts ∧ ∀ p ∈ ps, p.gap ≠ "" := by
      induction ts with
      | nil => exact ⟨[], rfl, by simp⟩
      | cons t ts ih =>
          obtain ⟨ht, hts⟩ := List.forall_mem_cons.mp h
          obtain ⟨cs, hcs⟩ := t.spellable_iff.mpr ht
          obtain ⟨ps, rfl, hgap⟩ := ih hts
          have hspells : Spells t (String.ofList cs).toList := by
            rwa [String.toList_ofList]
          exact ⟨⟨" ", t, String.ofList cs, hblank, hspells⟩ :: ps, rfl,
            List.forall_mem_cons.mpr ⟨by simp, hgap⟩⟩
    exact ⟨⟨ps, "", htokens, fun p hp => hgap p (List.mem_of_mem_tail hp), by simp⟩⟩

/-- **Layout and letter case of keywords do not matter**: however the tokens are written, these
tokens are read, and the same statement or fault is found. -/
theorem Statement.parse_writing {ts : List Token} (w w' : Writing ts) :
    TokenStream.ofText w.text = ⟨ts, none⟩ ∧ Statement.parse w.text = Statement.parse w'.text := by
  have hread : ∀ w : Writing ts, TokenStream.ofText w.text = ⟨ts, none⟩ := by
    intro w
    have hwritten := Piece.written_textOf w.blank_last w.apart
    rw [w.tokens_eq] at hwritten
    exact TokenStream.ofChars_eq hwritten
  refine ⟨hread w, ?_⟩
  unfold Statement.parse
  rw [hread w, hread w']

end RelStore
