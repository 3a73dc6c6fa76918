import RelStore.Proofs.Shell.CarryOut
import RelStore.Proofs.Shell.Options
import RelStore.Shell.Program

/-!
# Two ways to carry out statements

Statements may be given on the command line or typed into the shell.  Either way each is carried out
once, in order, on the catalog that those before it leave, and what is printed about it is the same;
around that the shell prints its banner and its prompts.  A statement that fails stops neither, but
the command line ends with the number of those that did.

The two are alike because both print the same answers (`Shell.carryOutAll`).  Which these are
depends on what the program finds around it, of which no more is used than is documented
(`Platform.Documented`):

* the reading of arguments decides which statements the command line carries out;
* the line editor decides which the shell does, and hands on lines without backspaces as they stand
  (`Shell.ReadsLines.read_inputOf`);
* the sort decides what statements answer, if anything, and it is the same for both.

Nothing is said about runs that a statement brings down.  A backspace makes the difference that is
left: a line editor may carry it out, as that of `Platform.standard` does, while the command line
hands it on as a character (`run_statements_shell_backspace`).
-/

namespace RelStore.Platform

open Program

/-- What the program relies on. -/
structure Documented (p : Platform) : Prop where
  readsOptions : Options.ReadsOptions p.readArguments
  readsLines : ∃ read, p.lineEditor = .ok read ∧ Shell.ReadsLines read
  stable : p.sorter.Stable

theorem documented_standard : standard.Documented where
  readsOptions demo _ _ _ _ hprompt hstatements := by
    show readOptions _ = _
    rw [readOptions, Options.ofArguments_of_gives hprompt hstatements demo]
  readsLines := ⟨Shell.readLines, rfl, Shell.readsLines_readLines⟩
  stable := Sorter.stable_insertion

section Runs

variable {p : Platform} {prompt : Option String} {prompts : List (List String)}
  {statements : List String} {arguments : List (List String)}

/-- A run with statements carries them out, whatever its prompt and its input are. -/
theorem run_of_statements (hp : p.Documented)
    (hprompt : List.Forall₂ (Options.Gives .prompt) prompt.toList prompts)
    (hne : statements ≠ [])
    (hstatements : List.Forall₂ (Options.Gives .statement) statements arguments) (demo : Bool)
    (input : String) :
    p.run (Options.demoArguments demo ++ prompts.flatten ++ arguments.flatten) input =
      p.runStatements (initialCatalog demo) statements := by
  rw [run, hp.readsOptions demo _ _ _ _ hprompt hstatements]
  simp only [runOptions, List.isEmpty_iff, if_neg hne]

/-- A run without statements is a session of the shell. -/
theorem run_of_lines (hp : p.Documented)
    (hprompt : List.Forall₂ (Options.Gives .prompt) prompt.toList prompts) (demo : Bool)
    (input : String) :
    p.run (Options.demoArguments demo ++ prompts.flatten) input =
      p.runShell (initialCatalog demo) (prompt.getD defaultPrompt) input := by
  have hoptions := hp.readsOptions demo _ _ _ _ hprompt .nil
  rw [List.flatten_nil, List.append_nil] at hoptions
  rw [run, hoptions]
  rfl

/-- A session of the shell on statements prints a prompt before the report of each. -/
theorem runShell_inputOf (hp : p.Documented) (hne : statements ≠ [])
    (hstatements : ∀ sql ∈ statements, Shell.IsStatement sql)
    (hbackspace : ∀ sql ∈ statements, Shell.backspace ∉ sql.toList) (c : Catalog)
    (prompt : String) (ended : Bool) :
    p.runShell c prompt (Shell.inputOf statements ended) =
      (Shell.carryOutAll p.sorter c statements).map fun answers =>
        { output := Shell.banner ++
            String.join (answers.map fun answer => prompt ++ Shell.report answer) ++ prompt } := by
  obtain ⟨read, heditor, hread⟩ := hp.readsLines
  have hplain : ∀ sql ∈ statements, Shell.PlainLine sql ∧ sql ≠ "" := fun sql hsql =>
    ⟨(hstatements sql hsql).plainLine (hbackspace sql hsql), (hstatements sql hsql).nonempty⟩
  unfold runShell
  rw [heditor]
  dsimp only
  rw [hread.read_inputOf hne hplain, Shell.transcript_of_isStatement prompt hstatements,
    Option.map_map]
  simp only [Function.comp_def, String.append_assoc]

/-- **Statements are carried out alike on the command line and in the shell**, on every platform
that does what is documented.

If none of them brings the program down, each is answered once, on the catalog that those before it
leave.  The command line prints the reports of the answers and ends with the number of the failures
if there are any; the shell prints the banner, a prompt before each report and one before the end.

No statement brings the program down that sorts rows by values with a total order only and has an
answer with no column too wide to be printed.  The answers are then those of a session. -/
theorem run_statements_shell (hp : p.Documented)
    (hprompt : List.Forall₂ (Options.Gives .prompt) prompt.toList prompts)
    (hne : statements ≠ []) (hstatements : ∀ sql ∈ statements, Shell.IsStatement sql)
    (hbackspace : ∀ sql ∈ statements, Shell.backspace ∉ sql.toList)
    (harguments : List.Forall₂ (Options.Gives .statement) statements arguments) (demo : Bool)
    (input : String) (ended : Bool) :
    let start := initialCatalog demo
    let shown := prompt.getD defaultPrompt
    (Shell.CompleteAll start statements → Shell.carryOutAll p.sorter start statements =
      some (Session.executeAll start statements).1) ∧
    ∀ answers, Shell.carryOutAll p.sorter start statements = some answers →
      let failures := answers.countP failed
      (answers.length = statements.length ∧
        ∀ n, answers[n]? = statements[n]?.bind fun sql =>
          (Shell.carryOut p.sorter (Session.executeAll start (statements.take n)).2 sql).map
            (·.1)) ∧
      p.run (Options.demoArguments demo ++ prompts.flatten ++ arguments.flatten) input = some
        { output := String.join (answers.map Shell.report)
          complaint := if failures = 0 then "" else
            "Error: " ++ failures.repr ++ " of " ++ statements.length.repr ++
              " statements failed\n"
          exitCode := if failures = 0 then 0 else 1 } ∧
      p.run (Options.demoArguments demo ++ prompts.flatten) (Shell.inputOf statements ended) = some
        { output := Shell.banner ++
            String.join (answers.map fun answer => shown ++ Shell.report answer) ++ shown
          complaint := ""
          exitCode := 0 } := by
  intro start shown
  refine ⟨Shell.carryOutAll_eq_answers hp.stable, ?_⟩
  intro answers hanswers failures
  refine ⟨⟨Shell.length_of_carryOutAll hanswers, Shell.getElem?_of_carryOutAll hanswers⟩, ?_, ?_⟩
  · rw [run_of_statements hp hprompt hne harguments, runStatements, hanswers, Option.map_some]
    by_cases hfailures : failures = 0
    · rw [if_pos hfailures, if_pos hfailures, if_pos hfailures]
    · rw [if_neg hfailures, if_neg hfailures, if_neg hfailures]
  · rw [run_of_lines hp hprompt, runShell_inputOf hp hne hstatements hbackspace, hanswers]
    rfl

end Runs

/-- A session that makes a table, fills it and shows it in descending order, in which two of six
statements fail. -/
theorem run_statements_shell_failures :
    let statements := ["CREATE TABLE t (a INT)", "INSERT INTO t (a) VALUES ('x')",
      "INSERT INTO t (a) VALUES (1)", "INSERT INTO t (a) VALUES (2)", "SELECT b FROM t",
      "SELECT a FROM t ORDER BY a DESC"]
    let arguments := [["-e", "CREATE TABLE t (a INT)"], ["-eINSERT INTO t (a) VALUES ('x')"],
      ["-e=INSERT INTO t (a) VALUES (1)"], ["--execute", "INSERT INTO t (a) VALUES (2)"],
      ["--execute=SELECT b FROM t"], ["-e", "SELECT a FROM t ORDER BY a DESC"]]
    let rows := "+---+\n| a |\n+---+\n| 2 |\n| 1 |\n+---+\n(2 row(s))\n"
    (standard.Documented ∧
      List.Forall₂ (Options.Gives .prompt) (some "? ").toList [["--prompt", "? "]] ∧
      statements ≠ [] ∧ (∀ sql ∈ statements, Shell.IsStatement sql) ∧
      (∀ sql ∈ statements, Shell.backspace ∉ sql.toList) ∧
      List.Forall₂ (Options.Gives .statement) statements arguments ∧
      Shell.CompleteAll ∅ statements) ∧
    standard.run (["--prompt", "? "] ++ arguments.flatten) "" = some
      { output := "Table t created\nError: invalid value: 'x' is not a valid INT\n" ++
          "Row inserted successfully\nRow inserted successfully\n" ++
          "Error: column b not found\n" ++ rows
        complaint := "Error: 2 of 6 statements failed\n"
        exitCode := 1 } ∧
    standard.run ["--prompt", "? "] (Shell.inputOf statements true) = some
      { output := Shell.banner ++
          "? Table t created\n? Error: invalid value: 'x' is not a valid INT\n" ++
          "? Row inserted successfully\n? Row inserted successfully\n" ++
          "? Error: column b not found\n? " ++ rows ++ "? " } := by
  intro statements arguments rows
  have hprompt : List.Forall₂ (Options.Gives .prompt) (some "? ").toList [["--prompt", "? "]] :=
    .cons (.longNext rfl) .nil
  have hne : statements ≠ [] := List.cons_ne_nil _ _
  have hstatements : ∀ sql ∈ statements, Shell.IsStatement sql := by decide +kernel
  have hbackspace : ∀ sql ∈ statements, Shell.backspace ∉ sql.toList := by decide +kernel
  have harguments : List.Forall₂ (Options.Gives .statement) statements arguments :=
    .cons (.shortNext rfl) (.cons (.shortAttached (by decide) (by decide)) (.cons .short
      (.cons (.longNext rfl) (.cons .long (.cons (.shortNext rfl) .nil)))))
  have hcomplete : Shell.CompleteAll ∅ statements := by decide +kernel
  obtain ⟨hanswers, hruns⟩ := run_statements_shell documented_standard hprompt hne hstatements
    hbackspace harguments false "" true
  obtain ⟨-, hcommand, hshell⟩ := hruns _ (hanswers hcomplete)
  exact ⟨⟨documented_standard, hprompt, hne, hstatements, hbackspace, harguments, hcomplete⟩,
    hcommand.trans (by decide +kernel), hshell.trans (by decide +kernel)⟩

/-- A statement may end in a backspace.  The command line refuses it; the shell takes the backspace
and the character before it away, and asks for another table. -/
theorem run_statements_shell_backspace :
    let sql := "SELECT * FROM t1\x08"
    let refused := "Error: syntax error: [Lexer] Unexpected character \x08\n"
    standard.Documented ∧ Shell.IsStatement sql ∧ Shell.CompleteAll ∅ [sql] ∧
      standard.run ["--execute=" ++ sql] "" = some
        { output := refused, complaint := "Error: 1 of 1 statements failed\n", exitCode := 1 } ∧
      standard.run [] (Shell.inputOf [sql] true) = some
        { output := Shell.banner ++ "sql> Error: table t does not exist\nsql> " } ∧
      standard.run [] (Shell.inputOf [sql] true) ≠ some
        { output := Shell.banner ++ "sql> " ++ refused ++ "sql> " } := by
  intro sql refused
  have hshell : standard.run [] (Shell.inputOf [sql] true) = some
      { output := Shell.banner ++ "sql> Error: table t does not exist\nsql> " } := by
    decide +kernel
  refine ⟨documented_standard, by decide +kernel, by decide +kernel, by decide +kernel, hshell, ?_⟩
  rw [hshell]
  decide +kernel

end RelStore.Platform
