import RelStore.Proofs.Grammar.Reports
import RelStore.Proofs.Plan.Reports
import RelStore.Proofs.Session.Failure

/-!
# Failures in one line

A message is meant for one line of a shell.  It shows names, numbers and symbols, which never have
line ends, and it shows texts, which have those that were written between the quotes.  Nothing is
done about the latter, so a message breaks just where the text that it shows does.

Such a text is one that the failing statement quotes, or it was stored by an earlier statement that
quotes it: a catalog holds no other broken texts, since every stored text is a quoted one or what a
number or a truth value is written as.  So statements that are single lines themselves fail in
single lines (`singleLine_of_execute`).
-/

namespace RelStore

open Text

namespace Session

/-- A statement fails where it is read, planned or run. -/
theorem failsOnly_execute {E : Error → Prop} {c : Catalog} {sql : String}
    (hparse : FailsOnly E (Statement.parse sql))
    (hplan : ∀ s, Statement.parse sql = .ok s → FailsOnly E (Plan.ofStatement c s))
    (hrun : ∀ p, plan c sql = .ok p → FailsOnly E (p.run c).1) :
    FailsOnly E (execute c sql).1 := by
  have hplanned : FailsOnly E (plan c sql) := failsOnly_bind hparse hplan
  unfold execute
  split
  next p hp => exact hrun p hp
  next e he => exact hplanned.of_eq_error he

theorem not_internal_of_execute {c : Catalog} {sql : String} {e : Error}
    (h : (execute c sql).1 = .error e) : ∀ cause, e ≠ .internal cause :=
  failsOnly_execute (neverInternal_iff.mp (Statement.neverInternal_parse sql))
    (fun s _ => neverInternal_iff.mp (Plan.neverInternal_ofStatement c s))
    (fun _ hp => neverInternal_iff.mp ((proper_of_plan hp).neverInternal_run c)) e h

/-- A statement on a catalog of quoted texts shows one of those or of its own. -/
theorem failsOnly_execute_singleLineUnless {texts : String → Prop} {c : Catalog} (hc : c.Spellable)
    (hcells : c.AllCells (Value.SingleLineUnless texts)) {sql : String}
    (htexts : ∀ s, QuotedIn sql s → texts s) :
    FailsOnly (Error.SingleLineUnless texts) (execute c sql).1 := by
  obtain ⟨hparse, hliterals⟩ := Statement.reports_parse htexts
  refine failsOnly_execute hparse (fun s hs => Plan.failsOnly_ofStatement c (hliterals s hs)) ?_
  intro p hp
  obtain ⟨s, hs, hplan⟩ := bind_eq_ok_iff.mp hp
  exact Plan.WellFormed.failsOnly_run hc hcells (proper_of_plan hp)
    (Plan.wellFormed_ofStatement hc (hliterals s hs) hplan)

/-- After a run, a message breaks only for a text that one of the statements quotes. -/
theorem singleLineUnless_of_execute {statements : List String} {sql : String} {e : Error}
    (h : (execute (executeAll ∅ statements).2 sql).1 = .error e) :
    e.SingleLineUnless fun s => ∃ text ∈ sql :: statements, QuotedIn text s := by
  refine failsOnly_execute_singleLineUnless (Catalog.spellable_executeAll statements) ?_
    (fun s hs => ⟨sql, List.mem_cons_self, hs⟩) e h
  refine Catalog.allCells_executeAll ColumnType.singleLineUnless_of_cast fun text htext => ?_
  exact (Statement.reports_parse fun s hs => ⟨text, List.mem_cons_of_mem sql htext, hs⟩).2

/-- After statements of one line each a statement of one line fails in one line. -/
theorem singleLine_of_execute {statements : List String} {sql : String} {e : Error}
    (h : (execute (executeAll ∅ statements).2 sql).1 = .error e)
    (hlines : ∀ text ∈ sql :: statements, SingleLine text) : SingleLine e.message := by
  obtain ⟨hiff, hquoted⟩ :=
    (singleLineUnless_of_execute h).singleLine_iff (not_internal_of_execute h)
  refine hiff.mpr fun s hs => ?_
  exact (hquoted s hs).elim id fun ⟨text, htext, hs⟩ => hs.singleLine (hlines text htext)

/-- **A failure is a single line just if the text that it shows is one**, and a text with line ends
that it shows stands between quotes in the statement or in one before it.  So where no quoted text
has line ends, whatever stands around the quotes, every failure is a single line. -/
theorem execute_singleLine_iff (statements : List String) (sql : String) (e : Error)
    (h : (execute (executeAll ∅ statements).2 sql).1 = .error e) :
    (SingleLine e.message ↔ ∀ s ∈ e.quoted?, SingleLine s) ∧
      (∀ s ∈ e.quoted?, SingleLine s ∨ ∃ text ∈ sql :: statements, QuotedIn text s) ∧
      ((∀ text ∈ sql :: statements, ∀ s, QuotedIn text s → SingleLine s) →
        SingleLine e.message) := by
  obtain ⟨hiff, hquoted⟩ :=
    (singleLineUnless_of_execute h).singleLine_iff (not_internal_of_execute h)
  refine ⟨hiff, hquoted, fun hall => hiff.mpr fun s hs => ?_⟩
  exact (hquoted s hs).elim id fun ⟨text, htext, hs⟩ => hall text htext s hs

/-- A key that is taken is shown on the one line that it has, the statement having two. -/
theorem execute_singleLine_iff_twoLines :
    let statements := ["CREATE TABLE t (a TEXT PRIMARY KEY)", "INSERT INTO t (a)\nVALUES ('one')"]
    let sql := "INSERT INTO t (a)\r\nVALUES ('one')"
    let e : Error := .duplicateKey "a" (.text "one")
    (execute (executeAll ∅ statements).2 sql).1 = .error e ∧ ¬ SingleLine sql ∧
      (∀ s ∈ e.quoted?, SingleLine s) ∧ SingleLine e.message := by
  intro statements sql e
  have hfails : (execute (executeAll ∅ statements).2 sql).1 = .error e := by decide +kernel
  obtain ⟨hiff, -, -⟩ := execute_singleLine_iff statements sql e hfails
  have hquoted : ∀ s ∈ e.quoted?, SingleLine s := by decide
  exact ⟨hfails, by decide, hquoted, hiff.mpr hquoted⟩

/-- A text that is no integer is shown with the line end that was written between its quotes. -/
theorem execute_singleLine_iff_brokenText :
    let c := (executeAll ∅ ["CREATE TABLE t (a INT)"]).2
    let e : Error := .invalidValue (.notIntegerText "1\n2")
    (execute c "INSERT INTO t (a) VALUES ('1\n2')").1 = .error e ∧
      e.message = "invalid value: '1\n2' is not a valid INT" ∧ ¬ SingleLine e.message := by
  decide +kernel

end Session

end RelStore
