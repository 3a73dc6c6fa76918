import RelStore.Proofs.Plan.RunWith
import RelStore.Proofs.Shell.Lines
import RelStore.Shell.Basic

/-!
# Statements carried out and printed

Statements are carried out one after the other, each on the catalog that those before it leave, and
each is answered (`getElem?_of_carryOutAll`).  Two things may bring the program down on the way: a
sort that gives up, and a column too wide to be printed.  Where rows are only sorted by values that
have a total order, and no column is too wide, neither happens and the answers are those of a
session (`carryOutAll_eq_answers`).

In the shell, a line that is no command reports the answer to itself and hands on the catalog
(`step_of_isStatement`).  So the transcript of such lines is the reports with a prompt before each
(`transcript_of_isStatement`).
-/

namespace RelStore.Shell

variable {sorter : Sorter} {c : Catalog} {sql : String} {statements : List String}

/-! ## Answers -/

theorem carryOut_eq_some_iff {result : Except Error Outcome × Catalog} :
    carryOut sorter c sql = some result ↔
      Session.executeWith sorter c sql = some result ∧ printable result.1 = true :=
  Option.filter_eq_some_iff

/-- Carrying a statement out leaves the catalog that the session does. -/
theorem catalog_of_carryOut {result : Except Error Outcome × Catalog}
    (h : carryOut sorter c sql = some result) : result.2 = (Session.execute c sql).2 :=
  Session.catalog_of_executeWith (carryOut_eq_some_iff.mp h).1

theorem carryOutAll_cons (sorter : Sorter) (c : Catalog) (sql : String) (rest : List String) :
    carryOutAll sorter c (sql :: rest) = (carryOut sorter c sql).bind fun result =>
      (carryOutAll sorter result.2 rest).map (result.1 :: ·) := by
  rw [carryOutAll]
  cases carryOut sorter c sql with
  | none => rfl
  | some result => cases h : carryOutAll sorter result.2 rest <;> simp [h]

/-- The first statement is answered, and the others are on the catalog that it leaves. -/
theorem exists_of_carryOutAll_cons {rest : List String} {answers : List (Except Error Outcome)}
    (h : carryOutAll sorter c (sql :: rest) = some answers) :
    ∃ answer later, (carryOut sorter c sql).map (·.1) = some answer ∧
      carryOutAll sorter (Session.execute c sql).2 rest = some later ∧
      answers = answer :: later := by
  rw [carryOutAll_cons] at h
  obtain ⟨result, hresult, h⟩ := Option.bind_eq_some_iff.mp h
  obtain ⟨later, hlater, rfl⟩ := Option.map_eq_some_iff.mp h
  rw [catalog_of_carryOut hresult] at hlater
  exact ⟨result.1, later, by rw [hresult]; rfl, hlater, rfl⟩

theorem length_of_carryOutAll {answers : List (Except Error Outcome)}
    (h : carryOutAll sorter c statements = some answers) :
    answers.length = statements.length := by
  induction statements generalizing c answers with
  | nil =>
      cases h
      rfl
  | cons sql rest ih =>
      obtain ⟨answer, later, -, hlater, rfl⟩ := exists_of_carryOutAll_cons h
      exact congrArg (· + 1) (ih hlater)

/-- **Each statement is answered once**, on the catalog that the statements before it leave. -/
theorem getElem?_of_carryOutAll {answers : List (Except Error Outcome)}
    (h : carryOutAll sorter c statements = some answers) (n : ℕ) :
    answers[n]? = statements[n]?.bind fun sql =>
      (carryOut sorter (Session.executeAll c (statements.take n)).2 sql).map (·.1) := by
  induction statements generalizing c answers n with
  | nil =>
      cases h
      rfl
  | cons sql rest ih =>
      obtain ⟨answer, later, hanswer, hlater, rfl⟩ := exists_of_carryOutAll_cons h
      cases n with
      | zero => exact hanswer.symm
      | succ n => exact ih hlater n

/-! ## Statements that bring nothing down -/

/-- The statement sorts rows by values with a total order only, and no column of its answer is too
wide to be printed. -/
structure Completes (c : Catalog) (sql : String) : Prop where
  sortsTotally : Session.SortsTotally c sql
  printable : printable (Session.execute c sql).1 = true

instance : Decidable (Completes c sql) :=
  decidable_of_iff
    (Session.SortsTotally c sql ∧ Shell.printable (Session.execute c sql).1 = true)
    ⟨fun ⟨hsorts, hprintable⟩ => ⟨hsorts, hprintable⟩, fun h => ⟨h.sortsTotally, h.printable⟩⟩

/-- Each of the statements completes on the catalog that those before it leave. -/
def CompleteAll (c : Catalog) : List String → Prop
  | [] => True
  | sql :: rest => Completes c sql ∧ CompleteAll (Session.execute c sql).2 rest

instance decidableCompleteAll (c : Catalog) :
    (statements : List String) → Decidable (CompleteAll c statements)
  | [] => .isTrue trivial
  | sql :: rest =>
    @instDecidableAnd _ _ _ (decidableCompleteAll (Session.execute c sql).2 rest)

theorem Completes.carryOut_eq (h : Completes c sql) (hstable : sorter.Stable) :
    carryOut sorter c sql = some (Session.execute c sql) :=
  carryOut_eq_some_iff.mpr
    ⟨Session.executeWith_eq_execute hstable h.sortsTotally, h.printable⟩

/-- **Statements that complete are answered as in a session**, whichever the sort is. -/
theorem carryOutAll_eq_answers (hstable : sorter.Stable) (h : CompleteAll c statements) :
    carryOutAll sorter c statements = some (Session.executeAll c statements).1 := by
  induction statements generalizing c with
  | nil => rfl
  | cons sql rest ih =>
      obtain ⟨hsql, hrest⟩ := h
      rw [carryOutAll_cons, hsql.carryOut_eq hstable, Option.bind_some, ih hrest]
      rfl

/-! ## Statements in the shell -/

/-- A line that the shell is meant to take as a statement, and as it stands. -/
structure IsStatement (sql : String) : Prop where
  singleLine : '\n' ∉ sql.toList
  nonempty : sql ≠ ""
  trimmed : Text.trim sql = sql
  /-- It is none of the commands, in any letter case. -/
  noCommand : Text.lowerAscii sql ∉ ["exit", "quit", "help", "tables"]

instance (sql : String) : Decidable (IsStatement sql) :=
  decidable_of_iff
    ('\n' ∉ sql.toList ∧ sql ≠ "" ∧ Text.trim sql = sql ∧
      Text.lowerAscii sql ∉ ["exit", "quit", "help", "tables"])
    ⟨fun ⟨hsingle, hne, htrim, hcommand⟩ => ⟨hsingle, hne, htrim, hcommand⟩,
      fun h => ⟨h.singleLine, h.nonempty, h.trimmed, h.noCommand⟩⟩

/-- A line editor hands on a statement without backspaces as it stands. -/
theorem IsStatement.plainLine (h : IsStatement sql) (hbackspace : backspace ∉ sql.toList) :
    PlainLine sql := by
  refine ⟨h.singleLine, hbackspace, fun hreturn => ?_⟩
  have hblank := Text.isBlank_eq_false_of_trim_eq h.trimmed hreturn
  contradiction

theorem Command.ofLine?_of_isStatement (h : IsStatement sql) :
    Command.ofLine? sql = some (.statement sql) := by
  have hcommand := h.noCommand
  simp only [List.mem_cons, List.not_mem_nil, or_false, not_or] at hcommand
  obtain ⟨hexit, hquit, hhelp, htables⟩ := hcommand
  have hempty : ¬ sql.isEmpty = true := fun hempty => h.nonempty (String.isEmpty_iff.mp hempty)
  unfold Command.ofLine?
  rw [h.trimmed]
  dsimp only
  rw [if_neg hempty, if_neg (not_or.mpr ⟨hexit, hquit⟩), if_neg hhelp, if_neg htables]

/-- What is printed for a statement is the report of its answer, and the catalog is that which the
statement leaves. -/
theorem step_of_isStatement (h : IsStatement sql) (sorter : Sorter) (c : Catalog) :
    step sorter c sql = (carryOut sorter c sql).map fun result =>
      (report result.1, some result.2) := by
  simp only [step, Command.ofLine?_of_isStatement h]

/-- **Statements are reported in their order**, a prompt before each and one before the end. -/
theorem transcript_of_isStatement (prompt : String) (h : ∀ sql ∈ statements, IsStatement sql)
    (sorter : Sorter) (c : Catalog) :
    transcript sorter c (.ofLines prompt statements) =
      (carryOutAll sorter c statements).map fun answers =>
        String.join (answers.map (prompt ++ report ·)) ++ prompt := by
  induction statements generalizing c with
  | nil => simp [Readings.ofLines, transcript, carryOutAll]
  | cons sql rest ih =>
      obtain ⟨hsql, hrest⟩ := List.forall_mem_cons.mp h
      show transcript sorter c (.line prompt sql (.ofLines prompt rest)) = _
      rw [transcript, step_of_isStatement hsql, carryOutAll_cons]
      cases carryOut sorter c sql with
      | none => rfl
      | some result =>
          show (transcript sorter result.2 (.ofLines prompt rest) >>= fun later =>
            some (prompt ++ report result.1 ++ later)) = _
          rw [ih hrest, Option.bind_some]
          cases carryOutAll sorter result.2 rest with
          | none => rfl
          | some answers => simp [String.append_assoc]

end RelStore.Shell
