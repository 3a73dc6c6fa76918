import Mathlib.Algebra.Order.Ring.Int
import RelStore.Proofs.Grammar.LiteralPlace
import RelStore.Proofs.Grammar.RowCount

/-!
# Numbers are read exactly or refused

Digits denote a natural number of any size.  Where a literal stands it has to be below `2 ^ 63`, and
may be `2 ^ 63` itself behind a minus sign; behind `LIMIT` and `OFFSET` it has to be below `2 ^ 64`,
and neither a minus sign nor a point is allowed.  A number in range is read as what it denotes, and
one out of range is a syntax error whatever stands behind it: nothing wraps and nothing is clamped.

A place of a literal is told by a null that is read there, a place of a number of rows by a zero.
-/

namespace RelStore

open Grammar

/-! ## Literals -/

/-- Every integer in range is a word. -/
theorem exists_int64 {n : ℤ} (hlow : -2 ^ 63 ≤ n) (hhigh : n < 2 ^ 63) :
    ∃ i : Int64, i.toInt = n :=
  ⟨.ofInt n, Int64.toInt_ofInt_of_le (by omega) (by omega)⟩

theorem not_fitsInt64 {n : ℤ} (h : n < -2 ^ 63 ∨ 2 ^ 63 ≤ n) : ¬ FitsInt64 n := by
  have hlow : Int64.minValue.toInt = -2 ^ 63 := by decide
  have hhigh : Int64.maxValue.toInt = 2 ^ 63 - 1 := by decide
  rw [FitsInt64, hlow, hhigh]
  omega

theorem Grammar.numberLiteral_eq_ok (negative : Bool) {d : String} {i : Int64}
    (h : i.toInt =
      if negative then -(Text.digitsValue d.toList : ℤ) else Text.digitsValue d.toList) :
    numberLiteral negative d none = .ok (.integer i) := by
  simp only [numberLiteral, ← h, int64?_toInt]

theorem Grammar.numberLiteral_eq_error (negative : Bool) {d : String}
    (h : ¬ FitsInt64
      (if negative then -(Text.digitsValue d.toList : ℤ) else Text.digitsValue d.toList)) :
    numberLiteral negative d none =
      .error (if negative then .numeralTooSmall else .numeralTooLarge) := by
  simp only [numberLiteral, int64?_eq_none_iff.mpr h]

namespace Statement

theorem ofTokens_eq_ok {tokens closing : List Token} {s : Statement}
    (hclosing : closing = [] ∨ closing = [.symbol .semicolon])
    (h : anyStatement.run none tokens = .ok (s, closing)) : ofTokens ⟨tokens, none⟩ = .ok s := by
  rw [ofTokens, run_statement_eq, h]
  rcases hclosing with rfl | rfl <;> rfl

theorem ofTokens_eq_error {tokens : List Token} {fault : Option SyntaxError} {e : Error}
    (h : anyStatement.run fault tokens = .error e) : ofTokens ⟨tokens, fault⟩ = .error e := by
  rw [ofTokens, run_statement_eq, h]
  rfl

/-- **Where a null is read as a literal, so are other literals.** -/
theorem ofTokens_literal {before after : List Token} {s : Statement}
    (h : ofTokens ⟨before ++ .keyword .null :: after, none⟩ = .ok s) :
    ∃ place, s.literalAt? place = some .null ∧ ∀ hole result, ReadAs hole result →
      (∀ v : Value, result = .ok v →
        ofTokens ⟨before ++ (hole ++ after), none⟩ = .ok (s.withLiteral place v)) ∧
      ∀ cause : SyntaxError, result = .error cause →
        ∀ (after' : List Token) (fault : Option SyntaxError),
        ofTokens ⟨before ++ (hole ++ after'), fault⟩ = .error (.malformed cause) := by
  obtain ⟨-, closing, hclosing, hrun⟩ := run_of_ofTokens_eq_ok h
  rcases fills_anyStatement hrun with ⟨left, rfl⟩ | ⟨fill, ⟨place, hnull, hfill⟩, rfl, -, hholes⟩
  · -- nothing but a semicolon is left behind a statement
    rcases hclosing with hclosing | hclosing
    · simp at hclosing
    · rcases left with _ | ⟨_, left⟩ <;> simp at hclosing
  · refine ⟨place, hnull, fun hole result hhole => ?_⟩
    obtain ⟨hok, herror⟩ := hholes hole result hhole
    refine ⟨fun v hv => ?_, fun cause hcause after' fault => ?_⟩
    · rw [← hfill v]
      exact ofTokens_eq_ok hclosing (hok v hv)
    · exact ofTokens_eq_error (herror cause hcause fault after')

/-- **Where a zero is read as a number of rows, so are other numbers.** -/
theorem ofTokens_count {clause : CountClause} {before after : List Token} {q : Query}
    (h : ofTokens ⟨before ++ .keyword clause.keyword :: .number "0" none :: after, none⟩ =
      .ok (.select q)) :
    q.count? clause = some 0 ∧
      (∀ (t : Token) (n : UInt64), countOf t = .ok n →
        ofTokens ⟨before ++ .keyword clause.keyword :: t :: after, none⟩ =
          .ok (.select (q.withCount clause n))) ∧
      ∀ (t : Token) (cause : SyntaxError), countOf t = .error cause →
        ∀ (after' : List Token) (fault : Option SyntaxError),
        ofTokens ⟨before ++ .keyword clause.keyword :: t :: after', fault⟩ =
          .error (.malformed cause) := by
  obtain ⟨-, closing, hclosing, hrun⟩ := run_of_ofTokens_eq_ok h
  obtain ⟨⟨following, hselect⟩, hquery⟩ := run_anyStatement_eq_select hrun
  have hzero : Token.number "0" none ∉ closing := by
    rcases hclosing with rfl | rfl <;> simp
  obtain ⟨hplace, n, hn, hcount⟩ := countPlace_of_run rfl hzero hquery
  obtain ⟨before', rfl⟩ : ∃ before', before = .keyword .select :: before' := by
    cases before with
    | nil =>
        obtain ⟨hword, -⟩ := List.cons.inj hselect
        cases clause <;> contradiction
    | cons t before' =>
        obtain ⟨rfl, -⟩ := List.cons.inj hselect
        exact ⟨before', rfl⟩
  refine ⟨?_, fun t n hn => ?_, fun t cause hcause after' fault => ?_⟩
  · obtain rfl : n = 0 := by cases hn; rfl
    exact hcount
  · have hok := hplace.run_of_ok t n hn
    refine ofTokens_eq_ok hclosing ?_
    rw [List.cons_append, run_anyStatement_cons_select]
    exact Parser.run_bind_of_ok hok
  · have herror := hplace.run_of_error t cause hcause after' fault
    refine ofTokens_eq_error ?_
    rw [List.cons_append, run_anyStatement_cons_select]
    exact Parser.run_bind_of_error herror

/-- **A number is read exactly, or refused because of the range of its place.**  Digits are one
token.  As a literal they are the integer that they denote if it is below `2 ^ 63`, and behind a
minus sign its negation if it is `2 ^ 63` at most; as a number of rows they are the number if it is
below `2 ^ 64`.  Otherwise the text is refused, whatever stands behind the number, and so is it
where a number of rows begins with a minus sign or has a point. -/
theorem number_read_exactly {d : String} {n : ℕ} (hd : Text.isDigits d.toList = true)
    (hn : Text.digitsValue d.toList = n) :
    (∀ rest : List Char, (∀ c ∈ rest.head?, (c.isDigit || c == '.') = false) →
      TokenStream.ofChars (d.toList ++ rest) = .cons (.number d none) (.ofChars rest)) ∧
    (∀ (fraction : String) (rest : List Char), (∀ c ∈ fraction.toList, c.isDigit = true) →
      (∀ c ∈ rest.head?, c.isDigit = false) →
      TokenStream.ofChars (d.toList ++ '.' :: fraction.toList ++ rest) =
        .cons (.number d (some fraction)) (.ofChars rest)) ∧
    (∀ (before after : List Token) (s : Statement),
      ofTokens ⟨before ++ .keyword .null :: after, none⟩ = .ok s →
      ∃ place, s.literalAt? place = some .null ∧
        (n < 2 ^ 63 → ∃ i : Int64, i.toInt = n ∧
          ofTokens ⟨before ++ .number d none :: after, none⟩ =
            .ok (s.withLiteral place (.integer i)) ∧
          (s.withLiteral place (.integer i)).literalAt? place = some (.integer i)) ∧
        (2 ^ 63 ≤ n → ∀ (after' : List Token) (fault : Option SyntaxError),
          ofTokens ⟨before ++ .number d none :: after', fault⟩ =
            .error (.malformed .numeralTooLarge)) ∧
        (n ≤ 2 ^ 63 → ∃ i : Int64, i.toInt = -n ∧
          ofTokens ⟨before ++ .symbol .minus :: .number d none :: after, none⟩ =
            .ok (s.withLiteral place (.integer i)) ∧
          (s.withLiteral place (.integer i)).literalAt? place = some (.integer i)) ∧
        (2 ^ 63 < n → ∀ (after' : List Token) (fault : Option SyntaxError),
          ofTokens ⟨before ++ .symbol .minus :: .number d none :: after', fault⟩ =
            .error (.malformed .numeralTooSmall))) ∧
    ∀ (clause : CountClause) (before after : List Token) (q : Query),
      ofTokens ⟨before ++ .keyword clause.keyword :: .number "0" none :: after, none⟩ =
        .ok (.select q) →
      q.count? clause = some 0 ∧
        (n < 2 ^ 64 → ∃ count : UInt64, count.toNat = n ∧
          ofTokens ⟨before ++ .keyword clause.keyword :: .number d none :: after, none⟩ =
            .ok (.select (q.withCount clause count))) ∧
        (2 ^ 64 ≤ n → ∀ (after' : List Token) (fault : Option SyntaxError),
          ofTokens ⟨before ++ .keyword clause.keyword :: .number d none :: after', fault⟩ =
            .error (.malformed .numeralTooLarge)) ∧
        ∀ t : Token, t = .symbol .minus ∨ (∃ fraction, t = .number d (some fraction)) →
          ∀ (after' : List Token) (fault : Option SyntaxError),
          ofTokens ⟨before ++ .keyword clause.keyword :: t :: after', fault⟩ =
            .error (.malformed (.expectedCount t)) := by
  refine ⟨fun rest hrest => ?_, fun fraction rest hfraction hrest => ?_,
    fun before after s h => ?_, fun clause before after q h => ?_⟩
  · exact TokenStream.ofChars_append_of_spells (.whole hd) hrest
  · exact TokenStream.ofChars_append_of_spells (.fraction hd hfraction) hrest
  · obtain ⟨place, hnull, hholes⟩ := ofTokens_literal h
    have hplace : (s.literalAt? place).isSome := by rw [hnull]; rfl
    obtain ⟨hplus, hplusError⟩ := hholes _ _ (readAs_number d none)
    obtain ⟨hminus, hminusError⟩ := hholes _ _ (readAs_minus_number d none)
    refine ⟨place, hnull, fun hlt => ?_, fun hge => ?_, fun hle => ?_, fun hgt => ?_⟩
    · obtain ⟨i, hi⟩ := exists_int64 (n := n) (by omega) (by omega)
      have hread := numberLiteral_eq_ok false (d := d) (i := i) (by simp [hi, hn])
      exact ⟨i, hi, hplus _ hread, literalAt?_withLiteral hplace _⟩
    · refine hplusError _ (numberLiteral_eq_error false (not_fitsInt64 (.inr ?_)))
      simpa [hn] using Int.ofNat_le.mpr hge
    · obtain ⟨i, hi⟩ := exists_int64 (n := -n) (by omega) (by omega)
      have hread := numberLiteral_eq_ok true (d := d) (i := i) (by simp [hi, hn])
      exact ⟨i, hi, hminus _ hread, literalAt?_withLiteral hplace _⟩
    · refine hminusError _ (numberLiteral_eq_error true (not_fitsInt64 (.inl ?_)))
      simp only [hn, if_true]
      omega
  · obtain ⟨hzero, hok, herror⟩ := ofTokens_count h
    refine ⟨hzero, fun hlt => ?_, fun hge => ?_, fun t ht => ?_⟩
    · have hcount : countOf (.number d none) = .ok (.ofNat n) := by
        simp only [countOf, hn]
        exact if_pos hlt
      exact ⟨.ofNat n, UInt64.toNat_ofNat_of_lt' hlt, hok _ _ hcount⟩
    · refine herror _ _ ?_
      simp only [countOf, hn]
      exact if_neg (Nat.not_lt.mpr hge)
    · refine herror t _ ?_
      rcases ht with rfl | ⟨fraction, rfl⟩ <;> rfl

/-- One more than the greatest literal, with zeros in front of it: it is refused as it stands, and
read behind a minus sign and as a number of rows. -/
theorem number_read_exactly_two_pow_63 :
    let d := "0009223372036854775808"
    let assigned : List Token :=
      [.keyword .update, .word "t", .keyword .set, .word "a", .symbol .equal]
    let s : Statement := .update "t" (.ofList [("a", .null)]) none
    let selected : List Token :=
      [.keyword .select, .symbol .asterisk, .keyword .fromWord, .word "t"]
    let q : Query :=
      { distinct := false, items := [.star], source := ⟨"t", none⟩, joins := [], filter := none
        groupBy := none, having := none, orderBy := none, limit := none, offset := some 0 }
    Text.isDigits d.toList = true ∧ Text.digitsValue d.toList = 2 ^ 63 ∧
      ofTokens ⟨assigned ++ [Token.keyword .null], none⟩ = .ok s ∧
      ofTokens ⟨assigned ++ [Token.number d none], none⟩ = .error (.malformed .numeralTooLarge) ∧
      (∃ place, s.literalAt? place = some .null ∧ ∃ i : Int64, i.toInt = -(2 ^ 63 : ℕ) ∧
        ofTokens ⟨assigned ++ [Token.symbol .minus, .number d none], none⟩ =
          .ok (s.withLiteral place (.integer i))) ∧
      ofTokens ⟨selected ++ [Token.keyword .offset, .number "0" none], none⟩ = .ok (.select q) ∧
      ∃ count : UInt64, count.toNat = 2 ^ 63 ∧
        ofTokens ⟨selected ++ [Token.keyword .offset, .number d none], none⟩ =
          .ok (.select (q.withCount .offset count)) := by
  intro d assigned s selected q
  have hd : Text.isDigits d.toList = true := by decide +kernel
  have hn : Text.digitsValue d.toList = 2 ^ 63 := by decide +kernel
  have hassigned : ofTokens ⟨assigned ++ [Token.keyword .null], none⟩ = .ok s := by decide +kernel
  have hselected : ofTokens ⟨selected ++ [Token.keyword .offset, .number "0" none], none⟩ =
      .ok (.select q) := by decide +kernel
  obtain ⟨-, -, hliteral, hcount⟩ := number_read_exactly hd hn
  obtain ⟨place, hnull, -, hlarge, hminus, -⟩ := hliteral assigned [] s hassigned
  obtain ⟨i, hi, hread, -⟩ := hminus le_rfl
  obtain ⟨-, hread', -, -⟩ := hcount .offset selected [] q hselected
  exact ⟨hd, hn, hassigned, hlarge le_rfl [] none, ⟨place, hnull, i, hi, hread⟩, hselected,
    hread' (by decide)⟩

end Statement

end RelStore
