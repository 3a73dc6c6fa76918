import RelStore.Proofs.Grammar.WellFormed
import RelStore.Proofs.Result
import RelStore.Proofs.Token.Layout
import RelStore.Statement.Render

/-!
# The lexemes of well-formed statements

Every lexeme of a well-formed statement is written with a spelling of its token, so the statement's
text is read as the tokens of its lexemes, however it is laid out.
-/

namespace RelStore

open Text

namespace Lexeme

/-! ## Single lexemes -/

theorem spelled_keyword (k : Keyword) : (keyword k).Spelled :=
  .keyword (by rw [keyword, String.ofList_toList]; exact equalsIgnoreCase_refl _)

theorem spelled_lowerKeyword (k : Keyword) : (lowerKeyword k).Spelled := by
  refine .keyword ?_
  rw [lowerKeyword, String.ofList_toList]
  exact Keyword.ofWord?_eq_some_iff.mp (Keyword.ofWord?_asName k)

theorem token_name (s : String) : (name s).token = .ofWord s.toList := rfl

theorem token_name_of_word {s : String} (h : Keyword.ofWord? s = none) :
    (name s).token = .word s := by
  rw [token_name, Token.ofWord_eq_word h]

theorem token_name_of_keyword (k : Keyword) : (name k.asName).token = .keyword k := by
  have h : equalsIgnoreCase k.spelling (String.ofList k.asName.toList) = true := by
    rw [String.ofList_toList]
    exact Keyword.ofWord?_eq_some_iff.mp (Keyword.ofWord?_asName k)
  rw [token_name, Token.ofWord_eq_keyword h]

theorem spelled_name {s : String} (h : IsName s) : (name s).Spelled := by
  unfold Spelled
  cases h with
  | word hword hkeyword =>
      rw [token_name_of_word hkeyword]
      exact .word hword hkeyword
  | @keyword k _ =>
      rw [token_name_of_keyword]
      exact spelled_lowerKeyword k

theorem spelled_text {s : String} (h : '\'' ∉ s.toList) : (text s).Spelled := by
  have hchars : (text s).written.toList = '\'' :: (s.toList ++ ['\'']) := by simp [text]
  unfold Spelled
  rw [hchars]
  exact .text h

theorem spelled_number (n : Nat) : (number n.repr none).Spelled := by
  refine .whole ?_
  rw [Nat.toList_repr]
  exact isDigits_toDigits n

theorem spelled_symbol (s : Symbol) : (symbol s).Spelled :=
  .symbol

/-! ## Lists of lexemes -/

/-- Every lexeme is written with a spelling of its token. -/
def AllSpelled (ls : List Lexeme) : Prop :=
  ∀ l ∈ ls, l.Spelled

@[simp] theorem allSpelled_nil : AllSpelled [] :=
  nofun

@[simp] theorem allSpelled_cons {l : Lexeme} {ls : List Lexeme} :
    AllSpelled (l :: ls) ↔ l.Spelled ∧ AllSpelled ls :=
  List.forall_mem_cons

@[simp] theorem allSpelled_append {ls ls' : List Lexeme} :
    AllSpelled (ls ++ ls') ↔ AllSpelled ls ∧ AllSpelled ls' :=
  List.forall_mem_append

theorem allSpelled_flatMap {α : Type} {phrase : α → List Lexeme} {as : List α}
    (h : ∀ a ∈ as, AllSpelled (phrase a)) : AllSpelled (as.flatMap phrase) := by
  intro l hl
  obtain ⟨a, ha, hl⟩ := List.mem_flatMap.mp hl
  exact h a ha l hl

end Lexeme

open Lexeme

theorem separatedBy_cons (separator : Lexeme) (phrase : List Lexeme)
    (phrases : List (List Lexeme)) :
    separatedBy separator (phrase :: phrases) = phrase ++ phrases.flatMap (separator :: ·) := by
  unfold separatedBy
  induction phrases generalizing phrase with
  | nil => simp
  | cons next phrases ih =>
      rw [List.intercalate_cons_cons, ih, List.flatMap_cons, List.append_assoc]
      rfl

theorem allSpelled_separatedBy {separator : Lexeme} {phrases : List (List Lexeme)}
    (hseparator : separator.Spelled) (h : ∀ phrase ∈ phrases, AllSpelled phrase) :
    AllSpelled (separatedBy separator phrases) := by
  cases phrases with
  | nil => exact nofun
  | cons phrase phrases =>
      rw [separatedBy_cons, allSpelled_append]
      refine ⟨h phrase List.mem_cons_self, allSpelled_flatMap fun next hnext => ?_⟩
      exact allSpelled_cons.mpr ⟨hseparator, h next (List.mem_cons_of_mem _ hnext)⟩

theorem allSpelled_parenthesized {phrases : List (List Lexeme)}
    (h : ∀ phrase ∈ phrases, AllSpelled phrase) : AllSpelled (parenthesized phrases) := by
  simp [parenthesized, spelled_symbol, allSpelled_separatedBy (spelled_symbol _) h]

theorem allSpelled_optionalLexemes {α : Type} {phrase : α → List Lexeme} {a? : Option α}
    (h : ∀ a ∈ a?, AllSpelled (phrase a)) : AllSpelled (optionalLexemes phrase a?) := by
  cases a? with
  | none => exact nofun
  | some a => exact h a rfl

/-- A clause is an optional phrase behind a keyword. -/
theorem allSpelled_clause {α : Type} (k : Keyword) {phrase : α → List Lexeme} {a? : Option α}
    (h : ∀ a ∈ a?, AllSpelled (phrase a)) :
    AllSpelled (optionalLexemes (Lexeme.keyword k :: phrase ·) a?) :=
  allSpelled_optionalLexemes fun a ha => allSpelled_cons.mpr ⟨spelled_keyword k, h a ha⟩

/-! ## Columns and literals -/

theorem columnLexemes_of_isName {s : String} (h : IsName s) : columnLexemes s = [.name s] := by
  have hsplit := splitQualified?_eq_none (h.notMem (c := '.') (by decide))
  simp only [columnLexemes, hsplit]

theorem columnLexemes_qualify {qualifier s : String} (h : IsName qualifier) :
    columnLexemes (qualify qualifier s) = [.name qualifier, .symbol .period, .name s] := by
  have hsplit := @splitQualified?_qualify qualifier s (h.notMem (c := '.') (by decide))
  simp only [columnLexemes, hsplit]

theorem allSpelled_columnLexemes {column : String} (h : IsColumn column) :
    AllSpelled (columnLexemes column) := by
  cases h with
  | plain hname =>
      rw [columnLexemes_of_isName hname]
      simp [spelled_name hname]
  | qualified hqualifier hname =>
      rw [columnLexemes_qualify hqualifier]
      simp [spelled_name hqualifier, spelled_name hname, spelled_symbol]

theorem allSpelled_literalLexemes {v : Value} (h : v.Spellable) :
    AllSpelled (literalLexemes v) := by
  cases v with
  | null => simp [literalLexemes, spelled_lowerKeyword]
  | boolean b => cases b <;> simp [literalLexemes, spelled_lowerKeyword]
  | integer i =>
      dsimp only [literalLexemes]
      split <;> simp [spelled_symbol, spelled_number]
  | float x => exact h.elim
  | text s => simp [literalLexemes, spelled_text h]

theorem allSpelled_asLexemes {s : String} (h : IsName s) : AllSpelled (asLexemes s) := by
  simp [asLexemes, spelled_keyword, spelled_name h]

/-! ## Calls -/

namespace AggregateFunction

private theorem toLower_upperLetter_ascii :
    ∀ n < 128, (upperLetter (Char.ofNat n)).toLower = (Char.ofNat n).toLower := by
  decide +kernel

/-- An ASCII letter keeps its letter in upper case. -/
theorem toLower_upperLetter {c : Char} (h : c.toLower.isLower = true) :
    (upperLetter c).toLower = c.toLower := by
  have hascii := toNat_lt_of_isAlpha (isAlpha_of_isLower_toLower h)
  have hc := toLower_upperLetter_ascii c.toNat hascii
  rwa [Char.ofNat_toNat] at hc

theorem startsWord_of_isUpper_upperLetter {c : Char} (h : (upperLetter c).isUpper = true) :
    startsWord c = true := by
  unfold upperLetter at h
  split at h
  next hc =>
    subst hc
    decide +kernel
  next =>
    split at h
    next hc =>
      subst hc
      decide +kernel
    next => exact startsWord_of_isAlpha (isAlpha_of_isUpper_toUpper h)

theorem toList_name_of_ofName? {s : String} {function : AggregateFunction}
    (h : ofName? s = some function) : function.name.toList = s.toList.map upperLetter := by
  unfold ofName? at h
  simpa using List.find?_some h

/-- No keyword has the letters of a function's name. -/
theorem ofWord?_eq_none_of_ofName? {s : String} {function : AggregateFunction}
    (h : ofName? s = some function) : Keyword.ofWord? s = none := by
  cases hword : Keyword.ofWord? s with
  | none => rfl
  | some k =>
      have hletters : k.spelling.toList.map Char.toLower = s.toList.map Char.toLower := by
        simpa [equalsIgnoreCase] using Keyword.ofWord?_eq_some_iff.mp hword
      have hlower := (Keyword.isLower_of_mem_spelling k).2
      rw [hletters] at hlower
      have hname : function.name.toList.map Char.toLower = k.spelling.toList.map Char.toLower := by
        rw [toList_name_of_ofName? h, hletters, List.map_map]
        refine List.map_congr_left fun c hc => ?_
        exact toLower_upperLetter (hlower _ (List.mem_map_of_mem hc))
      -- no function has the letters of a keyword
      have hdiffer : ∀ k ∈ Keyword.all, ∀ function ∈ [count, sum, avg, min, max],
          (name function).toList.map Char.toLower ≠ k.spelling.toList.map Char.toLower := by
        decide +kernel
      have hmem : function ∈ [count, sum, avg, min, max] := by cases function <;> decide
      exact absurd hname (hdiffer k (Keyword.mem_all k) function hmem)

/-- What names a function is a name. -/
theorem isName_of_ofName? {s : String} {function : AggregateFunction}
    (h : ofName? s = some function) : IsName s := by
  refine .word ?_ (ofWord?_eq_none_of_ofName? h)
  have hchars := toList_name_of_ofName? h
  obtain ⟨hne, hupper⟩ :
      function.name.toList ≠ [] ∧ function.name.toList.all Char.isUpper = true := by
    cases function <;> decide
  rw [hchars] at hne hupper
  have hstarts : ∀ c ∈ s.toList, startsWord c = true := fun c hc =>
    startsWord_of_isUpper_upperLetter (List.all_eq_true.mp hupper _ (List.mem_map_of_mem hc))
  exact isWord_of_startsWord (by simpa using hne) hstarts

theorem ofName?_name (function : AggregateFunction) : ofName? function.name = some function := by
  cases function <;> decide

end AggregateFunction

theorem allSpelled_callLexemes {functionName : String} {call : Aggregate}
    (hname : IsName functionName) (h : call.WellFormed) :
    AllSpelled (callLexemes functionName call) := by
  unfold callLexemes
  refine allSpelled_cons.mpr ⟨spelled_name hname, allSpelled_parenthesized ?_⟩
  intro phrase hphrase
  rw [List.mem_singleton.mp hphrase]
  cases hcolumn : call.column with
  | none => simp [spelled_symbol]
  | some column => exact allSpelled_columnLexemes (h.isColumn column hcolumn)

theorem openParen_mem_defaultOutputName (call : Aggregate) (functionName : String) :
    '(' ∈ (call.defaultOutputName functionName).toList := by
  unfold Aggregate.defaultOutputName
  split
  next => simp
  next => decide

/-- A call under a name of its own is spelled with its function in upper case. -/
theorem lexemes_aggregate_of_isName {call : Aggregate} {outputName : String}
    (h : IsName outputName) :
    (SelectItem.aggregate call outputName).lexemes =
      callLexemes call.function.name call ++ asLexemes outputName := by
  simp only [SelectItem.lexemes]
  rw [if_neg]
  intro heq
  have hparen := openParen_mem_defaultOutputName call
    (String.ofList (outputName.toList.takeWhile (· ≠ '(')))
  rw [← heq] at hparen
  exact h.notMem (by decide) hparen

/-- A call under the name it has anyway is spelled with a function that gives it this name. -/
theorem lexemes_aggregate_defaultOutputName {call : Aggregate} (hcall : call.WellFormed)
    {functionName : String} (h : AggregateFunction.ofName? functionName = some call.function) :
    ∃ spelled, AggregateFunction.ofName? spelled = some call.function ∧
      call.defaultOutputName spelled = call.defaultOutputName functionName ∧
      (SelectItem.aggregate call (call.defaultOutputName functionName)).lexemes =
        callLexemes spelled call := by
  simp only [SelectItem.lexemes]
  cases hcolumn : call.column with
  | none =>
      have hdefault : ∀ name, call.defaultOutputName name = "COUNT(*)" := by
        simp [Aggregate.defaultOutputName, hcolumn]
      have hspelled : String.ofList ("COUNT(*)".toList.takeWhile (· ≠ '(')) = "COUNT" := by decide
      refine ⟨"COUNT", ?_, ?_, ?_⟩
      · rw [hcall.eq_count hcolumn]
        decide
      · rw [hdefault, hdefault]
      · rw [hdefault, hspelled, hdefault, if_pos rfl]
  | some column =>
      have hparen : ∀ c ∈ functionName.toList, decide (c ≠ '(') = true := by
        intro c hc
        simp only [decide_eq_true_eq]
        rintro rfl
        exact (AggregateFunction.isName_of_ofName? h).notMem (by decide) hc
      have hspelled : String.ofList
          ((call.defaultOutputName functionName).toList.takeWhile (· ≠ '(')) = functionName := by
        simp only [Aggregate.defaultOutputName, hcolumn, String.toList_append, List.append_assoc]
        rw [takeWhile_append_of_head hparen, String.ofList_toList]
        simp
      exact ⟨functionName, h, rfl, by rw [hspelled, if_pos rfl]⟩

/-- A selected call is spelled with a function of its kind, and with its output name unless it has
this name anyway. -/
theorem exists_lexemes_aggregate {call : Aggregate} {outputName : String}
    (h : (SelectItem.aggregate call outputName).WellFormed) :
    ∃ functionName, AggregateFunction.ofName? functionName = some call.function ∧
      ((IsName outputName ∧ (SelectItem.aggregate call outputName).lexemes =
          callLexemes functionName call ++ asLexemes outputName) ∨
        (call.defaultOutputName functionName = outputName ∧
          (SelectItem.aggregate call outputName).lexemes = callLexemes functionName call)) := by
  obtain ⟨hcall, houtput | ⟨functionName, hfunction, rfl⟩⟩ := h
  · exact ⟨call.function.name, AggregateFunction.ofName?_name _,
      .inl ⟨houtput, lexemes_aggregate_of_isName houtput⟩⟩
  · obtain ⟨spelled, hspelled, heq, hlexemes⟩ :=
      lexemes_aggregate_defaultOutputName hcall hfunction
    exact ⟨spelled, hspelled, .inr ⟨heq, hlexemes⟩⟩

/-! ## Clauses -/

theorem SelectItem.allSpelled_lexemes {item : SelectItem} (h : item.WellFormed) :
    AllSpelled item.lexemes := by
  cases item with
  | star => simp [SelectItem.lexemes, spelled_symbol]
  | column name outputName =>
      obtain ⟨hname, houtput⟩ := h
      simp only [SelectItem.lexemes, allSpelled_append]
      refine ⟨allSpelled_columnLexemes hname, ?_⟩
      split
      next => exact nofun
      next hne => exact allSpelled_asLexemes (houtput.resolve_left hne)
  | aggregate call outputName =>
      obtain ⟨functionName, hfunction, hlexemes⟩ := exists_lexemes_aggregate h
      have hcall := allSpelled_callLexemes (AggregateFunction.isName_of_ofName? hfunction) h.1
      rcases hlexemes with ⟨houtput, hlexemes⟩ | ⟨-, hlexemes⟩
      · rw [hlexemes, allSpelled_append]
        exact ⟨hcall, allSpelled_asLexemes houtput⟩
      · rwa [hlexemes]

theorem Condition.allSpelled_lexemes {c : Condition} (h : c.WellFormed Value.Spellable) :
    AllSpelled c.lexemes := by
  have hoperand : AllSpelled c.operand.lexemes := by
    have hc := h.operand
    cases hop : c.operand with
    | column name =>
        rw [hop] at hc
        exact allSpelled_columnLexemes hc
    | aggregate call =>
        rw [hop] at hc
        refine allSpelled_callLexemes ?_ hc
        exact AggregateFunction.isName_of_ofName? (AggregateFunction.ofName?_name call.function)
  simp [Condition.lexemes, hoperand, spelled_symbol, allSpelled_literalLexemes h.literal]

theorem ConditionGroup.allSpelled_lexemes {group : ConditionGroup}
    (h : group.WellFormed Value.Spellable) : AllSpelled group.lexemes :=
  allSpelled_separatedBy (spelled_keyword _)
    (List.forall_mem_map.mpr fun c hc => Condition.allSpelled_lexemes (h.condition c hc))

theorem EqualityTest.allSpelled_lexemes {test : EqualityTest}
    (h : test.WellFormed Value.Spellable) : AllSpelled test.lexemes := by
  simp [EqualityTest.lexemes, spelled_name h.isName, spelled_symbol,
    allSpelled_literalLexemes h.literal]

theorem Join.allSpelled_lexemes {j : Join} (htable : IsName j.table)
    (hqualifier : IsName j.rightQualifier) (hleft : IsColumn j.left) (hright : IsColumn j.right) :
    AllSpelled j.lexemes := by
  have hkind : AllSpelled j.kind.lexemes := by
    cases j.kind <;> simp [JoinKind.lexemes, spelled_keyword]
  have halias : AllSpelled
      (if j.rightQualifier = j.table then [] else asLexemes j.rightQualifier) := by
    split
    next => exact nofun
    next => exact allSpelled_asLexemes hqualifier
  simp [Join.lexemes, hkind, halias, spelled_name htable, spelled_keyword, spelled_symbol,
    allSpelled_columnLexemes hleft, allSpelled_columnLexemes hright]

theorem SortKey.allSpelled_lexemes {key : SortKey} (h : IsColumn key.column) :
    AllSpelled key.lexemes := by
  simp [SortKey.lexemes, allSpelled_columnLexemes h, spelled_keyword]

theorem allSpelled_countLexemes (count : UInt64) : AllSpelled (countLexemes count) := by
  simp [countLexemes, spelled_number]

theorem ColumnDefinition.allSpelled_lexemes {column : ColumnDefinition} (h : IsName column.name) :
    AllSpelled column.lexemes := by
  have hkey : AllSpelled (if column.isKey then keyLexemes else []) := by
    split <;> simp [keyLexemes, spelled_keyword]
  simp [ColumnDefinition.lexemes, spelled_name h, spelled_keyword, hkey]

theorem allSpelled_keyConstraint {column : String} (h : IsName column) :
    AllSpelled (keyLexemes ++ parenthesized [[.name column]]) := by
  have hparens : AllSpelled (parenthesized [[.name column]]) :=
    allSpelled_parenthesized (by simp [spelled_name h])
  simp [keyLexemes, spelled_keyword, hparens]

theorem allSpelled_assignmentLexemes {assignment : String × Value} (hname : IsName assignment.1)
    (hliteral : assignment.2.Spellable) : AllSpelled (assignmentLexemes assignment) := by
  simp [assignmentLexemes, spelled_name hname, spelled_symbol, allSpelled_literalLexemes hliteral]

/-! ## Statements -/

/-- The joins may stand either way round. -/
theorem Query.allSpelled_lexemes {q : Query} (h : q.WellFormed Value.Spellable) {joins : List Join}
    (hjoins : SomeReversed q.joins joins) : AllSpelled ({ q with joins } : Query).lexemes := by
  have hdistinct : AllSpelled (if q.distinct then [Lexeme.keyword .distinct] else []) := by
    split <;> simp [spelled_keyword]
  have hitems : AllSpelled (separatedBy (.symbol .comma) (q.items.map SelectItem.lexemes)) :=
    allSpelled_separatedBy (spelled_symbol _)
      (List.forall_mem_map.mpr fun item hitem => SelectItem.allSpelled_lexemes (h.item item hitem))
  have hsource : AllSpelled (optionalLexemes asLexemes q.source.otherName) :=
    allSpelled_optionalLexemes fun name hname => allSpelled_asLexemes (h.otherName name hname)
  have hjoined : AllSpelled (joins.flatMap Join.lexemes) := by
    refine allSpelled_flatMap fun j' hj' => ?_
    obtain ⟨j, hj, hj'⟩ := exists_mem_of_forall₂ hjoins hj'
    have hwf := h.join j hj
    -- exchanging the sides exchanges what is known of them
    rcases hj' with rfl | ⟨-, rfl⟩
    · exact Join.allSpelled_lexemes hwf.table hwf.rightQualifier hwf.left hwf.right
    · exact Join.allSpelled_lexemes hwf.table hwf.rightQualifier hwf.right hwf.left
  have hfilter := allSpelled_clause .whereWord fun group hgroup =>
    ConditionGroup.allSpelled_lexemes (h.filter group hgroup)
  have hgroupBy : AllSpelled (optionalLexemes (fun columns => Lexeme.keyword .group ::
      Lexeme.keyword .byWord :: separatedBy (.symbol .comma) (columns.map columnLexemes))
      q.groupBy) := by
    refine allSpelled_clause .group fun columns hmem => ?_
    refine allSpelled_cons.mpr ⟨spelled_keyword _, allSpelled_separatedBy (spelled_symbol _) ?_⟩
    exact List.forall_mem_map.mpr fun column hcolumn =>
      allSpelled_columnLexemes (h.groupBy columns hmem column hcolumn)
  have hhaving := allSpelled_clause .having fun group hgroup =>
    ConditionGroup.allSpelled_lexemes (h.having group hgroup)
  have horderBy := allSpelled_clause .order fun key hkey => allSpelled_cons.mpr
    ⟨spelled_keyword .byWord, SortKey.allSpelled_lexemes (h.orderBy key hkey)⟩
  have hlimit := allSpelled_clause .limit fun count (_ : count ∈ q.limit) =>
    allSpelled_countLexemes count
  have hoffset := allSpelled_clause .offset fun count (_ : count ∈ q.offset) =>
    allSpelled_countLexemes count
  simp only [Query.lexemes, allSpelled_append, allSpelled_cons, spelled_keyword,
    spelled_name h.source, hdistinct, hitems, hsource, hjoined, hfilter, hgroupBy, hhaving,
    horderBy, hlimit, hoffset, and_self]

/-- **Every lexeme of a well-formed statement is a spelling of its token.** -/
theorem Statement.allSpelled_lexemes {s : Statement} (h : s.WellFormed Value.Spellable) :
    AllSpelled s.lexemes := by
  cases s with
  | createTable name columns key =>
      obtain ⟨hname, hcolumns, hkey, -⟩ := h
      have helements : ∀ phrase ∈ columns.map ColumnDefinition.lexemes ++
          (key.map fun key => keyLexemes ++ parenthesized [[.name key]]).toList,
          AllSpelled phrase := by
        refine List.forall_mem_append.mpr ⟨List.forall_mem_map.mpr fun column hcolumn =>
          ColumnDefinition.allSpelled_lexemes (hcolumns column hcolumn), fun phrase hphrase => ?_⟩
        obtain ⟨column, hcolumn, rfl⟩ := Option.map_eq_some_iff.mp (Option.mem_toList.mp hphrase)
        exact allSpelled_keyConstraint (hkey column hcolumn)
      simp [Statement.lexemes, spelled_keyword, spelled_name hname,
        allSpelled_parenthesized helements]
  | insert table columns values =>
      obtain ⟨htable, -, hcolumns, -, -, hvalues⟩ := h
      have hnames : AllSpelled (parenthesized (columns.map fun column => [Lexeme.name column])) :=
        allSpelled_parenthesized (List.forall_mem_map.mpr fun column hcolumn =>
          allSpelled_cons.mpr ⟨spelled_name (hcolumns column hcolumn), allSpelled_nil⟩)
      have hliterals : AllSpelled (parenthesized (values.map literalLexemes)) :=
        allSpelled_parenthesized (List.forall_mem_map.mpr fun v hv =>
          allSpelled_literalLexemes (hvalues v hv).1)
      simp [Statement.lexemes, spelled_keyword, spelled_name htable, hnames, hliterals]
  | update table assignments test =>
      obtain ⟨htable, -, hassignments, htest⟩ := h
      have hphrases : ∀ phrase ∈ assignments.entries.map assignmentLexemes, AllSpelled phrase :=
        List.forall_mem_map.mpr fun entry hentry =>
          allSpelled_assignmentLexemes (hassignments entry hentry).1 (hassignments entry hentry).2
      have hwhere := allSpelled_clause .whereWord fun condition hcondition =>
        EqualityTest.allSpelled_lexemes (htest condition hcondition)
      simp [Statement.lexemes, spelled_keyword, spelled_name htable,
        allSpelled_separatedBy (spelled_symbol _) hphrases, hwhere]
  | delete table test =>
      obtain ⟨htable, htest⟩ := h
      have hwhere := allSpelled_clause .whereWord fun condition hcondition =>
        EqualityTest.allSpelled_lexemes (htest condition hcondition)
      simp [Statement.lexemes, spelled_keyword, spelled_name htable, hwhere]
  | select q => exact Query.allSpelled_lexemes h (List.forall₂_same.mpr fun j _ => .inl rfl)

end RelStore
