import RelStore.Grammar.Basic
import RelStore.Proofs.Grammar.Lexemes
import RelStore.Proofs.Token.Run

/-!
# Reading names and literals

Each phrase of the grammar reads the tokens of the lexemes that a value of the phrase is written
with and leaves the rest, provided the rest does not begin with more of the phrase.  A column may
go on with a point; names, literals and numbers of rows end by themselves.

An optional clause is told by its keyword.  The clauses of a query stand in a fixed order, so the
rest after one begins with the keyword of a later one or is empty (`HeadIn`).
-/

namespace RelStore

open RelStore.Parser

/-- The tokens of lexemes. -/
def Lexeme.tokens (ls : List Lexeme) : List Token :=
  ls.map Lexeme.token

section Tokens

variable {l : Lexeme} {ls ls' : List Lexeme}

@[simp] theorem Lexeme.tokens_nil : tokens [] = [] := rfl

@[simp] theorem Lexeme.tokens_cons : tokens (l :: ls) = l.token :: tokens ls := rfl

@[simp] theorem Lexeme.tokens_append : tokens (ls ++ ls') = tokens ls ++ tokens ls' :=
  List.map_append

@[simp] theorem Lexeme.token_keyword (k : Keyword) : (keyword k).token = .keyword k := rfl

@[simp] theorem Lexeme.token_symbol (s : Symbol) : (symbol s).token = .symbol s := rfl

theorem Lexeme.tokens_flatMap {α : Type} (phrase : α → List Lexeme) (as : List α) :
    tokens (as.flatMap phrase) = as.flatMap fun a => tokens (phrase a) := by
  simp [tokens, List.map_flatMap]

end Tokens

open Lexeme

theorem tokens_separatedBy {α : Type} (separator : Lexeme) (phrase : α → List Lexeme) (a : α)
    (as : List α) :
    tokens (separatedBy separator ((a :: as).map phrase)) =
      tokens (phrase a) ++ as.flatMap fun b => separator.token :: tokens (phrase b) := by
  rw [List.map_cons, separatedBy_cons, tokens_append, tokens_flatMap, List.flatMap_map]
  simp only [tokens_cons]

theorem tokens_parenthesized {α : Type} (phrase : α → List Lexeme) (a : α) (as : List α)
    (rest : List Token) :
    tokens (parenthesized ((a :: as).map phrase)) ++ rest =
      .symbol .openParen :: (tokens (phrase a) ++
        (as.flatMap fun b => .symbol .comma :: tokens (phrase b)) ++
          .symbol .closeParen :: rest) := by
  rw [parenthesized, tokens_append, tokens_cons, tokens_separatedBy]
  simp

namespace Grammar

variable {fault : Option SyntaxError} {rest : List Token}

/-! ## Names and columns -/

theorem run_keyword (k : Keyword) (rest : List Token) :
    (keyword k).run fault (.keyword k :: rest) = .ok ((), rest) :=
  run_expect_self _ _

theorem run_symbol (s : Symbol) (rest : List Token) :
    (symbol s).run fault (.symbol s :: rest) = .ok ((), rest) :=
  run_expect_self _ _

theorem run_name {s : String} (h : IsName s) (rest : List Token) :
    name.run fault ((Lexeme.name s).token :: rest) = .ok (s, rest) := by
  unfold name
  rw [run_bind_of_ok (run_next_cons _ _ _)]
  cases h with
  | word _ hkeyword =>
      rw [token_name_of_word hkeyword]
      rfl
  | @keyword k hk =>
      rw [token_name_of_keyword]
      simp [hk]

/-- A column begins with a name, after which it is read to its end. -/
theorem exists_first_of_isColumn {column : String} (h : IsColumn column) :
    ∃ first suffix, IsName first ∧
      tokens (columnLexemes column) = (Lexeme.name first).token :: suffix ∧
      (suffix = [] ∨ suffix.head? = some (.symbol .period)) ∧
      ∀ {fault rest}, rest.head? ≠ some (.symbol .period) →
        (qualifiedFrom first).run fault (suffix ++ rest) = .ok (column, rest) := by
  cases h with
  | plain hname =>
      refine ⟨column, [], hname, by rw [columnLexemes_of_isName hname]; rfl, .inl rfl, ?_⟩
      intro fault rest hrest
      unfold qualifiedFrom
      rw [List.nil_append, run_bind_of_ok (run_accept_of_head?_ne hrest)]
      rfl
  | @qualified qualifier name hqualifier hname =>
      refine ⟨qualifier, [.symbol .period, (Lexeme.name name).token], hqualifier,
        by rw [columnLexemes_qualify hqualifier]; rfl, .inr rfl, ?_⟩
      intro fault rest _
      unfold qualifiedFrom
      rw [List.cons_append, run_bind_of_ok (run_accept_self _ _), if_pos rfl,
        List.singleton_append, run_bind_of_ok (run_name hname _)]
      rfl

theorem run_columnName {column : String} (h : IsColumn column)
    (hrest : rest.head? ≠ some (.symbol .period)) :
    columnName.run fault (tokens (columnLexemes column) ++ rest) = .ok (column, rest) := by
  obtain ⟨first, suffix, hfirst, htokens, -, hsuffix⟩ := exists_first_of_isColumn h
  unfold columnName
  rw [htokens, List.cons_append, run_bind_of_ok (run_name hfirst _)]
  exact hsuffix hrest

/-! ## Literals -/

theorem numberLiteral_natAbs (i : Int64) :
    numberLiteral (i.toInt < 0) i.toInt.natAbs.repr none = .ok (.integer i) := by
  unfold numberLiteral
  simp only [Nat.toList_repr, Text.digitsValue_toDigits]
  by_cases h : i.toInt < 0
  · have hsize : -(i.toInt.natAbs : Int) = i.toInt := by omega
    simp only [h, decide_true, if_true, hsize, int64?_toInt]
  · have hsize : (i.toInt.natAbs : Int) = i.toInt := by omega
    simp only [h, decide_false, Bool.false_eq_true, if_false, hsize, int64?_toInt]

theorem run_literal {v : Value} (h : v.Spellable) {allowBoolean : Bool}
    (hboolean : allowBoolean = true ∨ ∀ b, v ≠ .boolean b) (rest : List Token) :
    (literal allowBoolean).run fault (tokens (literalLexemes v) ++ rest) = .ok (v, rest) := by
  unfold literal
  cases v with
  | null => rfl
  | boolean b =>
      obtain rfl := hboolean.resolve_right fun h => h b rfl
      cases b <;> rfl
  | integer i =>
      have hnumber := numberLiteral_natAbs i
      by_cases hneg : i.toInt < 0
      · rw [decide_eq_true hneg] at hnumber
        simp only [literalLexemes, if_pos hneg]
        rw [tokens_cons, List.cons_append, run_bind_of_ok (run_next_cons _ _ _)]
        show (next >>= _).run fault (_ :: rest) = _
        rw [run_bind_of_ok (run_next_cons _ _ _)]
        show (ofResult (numberLiteral true _ none)).run fault rest = _
        rw [hnumber]
        rfl
      · rw [decide_eq_false hneg] at hnumber
        simp only [literalLexemes, if_neg hneg]
        rw [tokens_cons, List.cons_append, run_bind_of_ok (run_next_cons _ _ _)]
        show (ofResult (numberLiteral false _ none)).run fault rest = _
        rw [hnumber]
        rfl
  | float x => exact h.elim
  | text s => rfl

theorem run_rowCount (count : UInt64) (rest : List Token) :
    rowCount.run fault (tokens (countLexemes count) ++ rest) = .ok (count, rest) := by
  have hcount : Text.digitsValue count.toNat.repr.toList = count.toNat := by
    rw [Nat.toList_repr, Text.digitsValue_toDigits]
  have hlt : count.toNat < UInt64.size := count.toNat_lt_size
  unfold rowCount
  rw [countLexemes, tokens_cons, List.cons_append, run_bind_of_ok (run_next_cons _ _ _)]
  simp only [number, hcount, if_pos hlt, UInt64.ofNat_toNat]
  rfl

/-! ## Optional clauses -/

/-- There is no token, or the first one is one of the keywords. -/
def HeadIn (ks : List Keyword) (tokens : List Token) : Prop :=
  ∀ token ∈ tokens.head?, ∃ k ∈ ks, token = .keyword k

theorem headIn_nil (ks : List Keyword) : HeadIn ks [] :=
  nofun

/-- A rest that begins with a keyword does not begin with another token. -/
theorem HeadIn.head?_ne {ks : List Keyword} {tokens : List Token} (h : HeadIn ks tokens)
    (token : Token) (hne : ∀ k ∈ ks, token ≠ .keyword k) : tokens.head? ≠ some token := by
  intro hhead
  obtain ⟨k, hk, heq⟩ := h token hhead
  exact hne k hk heq

section Clause

variable {α : Type} {k : Keyword} {phrase : α → List Lexeme}

/-- Before an optional clause the rest begins with its keyword, or as the rest after it does. -/
theorem HeadIn.optional {ks : List Keyword} (h : HeadIn ks rest) (k : Keyword)
    (phrase : α → List Lexeme) (a? : Option α) :
    HeadIn (k :: ks) (tokens (optionalLexemes (fun a => .keyword k :: phrase a) a?) ++ rest) := by
  cases a? with
  | none => exact fun token htoken => (h token htoken).imp fun k' hk' =>
      ⟨List.mem_cons_of_mem _ hk'.1, hk'.2⟩
  | some a =>
      rintro token ⟨⟩
      exact ⟨k, List.mem_cons_self, rfl⟩

theorem run_clause? {p : Parser α} {a? : Option α}
    (hphrase : ∀ a ∈ a?, p.run fault (tokens (phrase a) ++ rest) = .ok (a, rest))
    (hrest : rest.head? ≠ some (.keyword k)) :
    (clause? k p).run fault
      (tokens (optionalLexemes (fun a => .keyword k :: phrase a) a?) ++ rest) =
        .ok (a?, rest) := by
  unfold clause? acceptKeyword
  cases a? with
  | none =>
      rw [show tokens (optionalLexemes _ none) ++ rest = rest from rfl,
        run_bind_of_ok (run_accept_of_head?_ne hrest)]
      rfl
  | some a =>
      show (accept (.keyword k) >>= _).run fault (.keyword k :: (tokens (phrase a) ++ rest)) = _
      rw [run_bind_of_ok (run_accept_self _ _), if_pos rfl,
        run_bind_of_ok (hphrase a rfl)]
      rfl

end Clause

end Grammar

end RelStore
