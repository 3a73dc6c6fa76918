import RelStore.Proofs.Relation.Shape
import RelStore.Proofs.Session.Reachable

/-!
# Plans read within rows

On a valid catalog every plan, whatever stages it is made of and in whatever order, answers shaped
relations, and its stages read rows only at positions of these.  Three facts go up the plan
together (`RunsShaped`), because a join looks its table up in the catalog that its source left:

* the catalog stays valid;
* rows that are answered have one value per column of the answer;
* the checked run answers what the run does.

The leaves bring the facts from valid tables, and a stage hands those of its source on
(`RunsShaped.andThen`).
-/

namespace RelStore

/-- The rows that are answered have one value per column. -/
def Outcome.Shaped : Outcome → Prop
  | created _ => True
  | inserted _ => True
  | rows r => r.Shaped
  | updated _ r => r.Shaped
  | deleted _ => True

namespace Plan

/-- A run and its checked form, the run ending with a valid catalog and shaped rows. -/
structure RunsShaped (result : Except Error Outcome × Catalog)
    (checked : Checked Outcome × Catalog) : Prop where
  valid : result.2.Valid
  shaped : ∀ o, result.1 = .ok o → o.Shaped
  checked_eq : checked = (unchecked result.1, result.2)

variable {c : Catalog}

/-! ## Leaves -/

theorem runsShaped_leaf {result : Except Error Outcome × Catalog} (hvalid : result.2.Valid)
    (hshaped : ∀ o, result.1 = .ok o → o.Shaped) : RunsShaped result (checkedLeaf result) :=
  ⟨hvalid, hshaped, rfl⟩

theorem valid_create (hc : c.Valid) {schema : Schema} {o : Outcome} {c' : Catalog}
    (h : runCreate c schema = .ok (o, c')) : c'.Valid := by
  obtain ⟨_, hvalidate, h⟩ := bind_eq_ok_iff.mp h
  obtain ⟨created, hcreate, h⟩ := bind_eq_ok_iff.mp h
  cases h
  obtain ⟨-, rfl⟩ := Catalog.create_eq_ok hcreate
  exact hc.insert (Table.valid_empty (Schema.validate_eq_ok_iff.mp hvalidate)) rfl

/-- A change that answers no rows but those of a valid table of its schema ends well. -/
theorem runsShaped_change (hc : c.Valid) {name : String}
    {f : Table → Except Error (Outcome × Table)}
    (hf : ∀ t o t', t.Valid → f t = .ok (o, t') →
      t'.Valid ∧ t'.schema = t.schema ∧ o.Shaped) :
    RunsShaped (commit c (c.change name f)) (checkedLeaf (commit c (c.change name f))) := by
  rcases commit_cases c (c.change name f) with ⟨e, hrun⟩ | ⟨o, c', hok, hrun⟩
  · rw [hrun]
    exact runsShaped_leaf hc nofun
  · obtain ⟨key, t, t', -, htable, hchange, rfl⟩ := Catalog.change_eq_ok hok
    obtain ⟨ht', hschema, hshaped⟩ := hf t o t' (hc.table htable) hchange
    rw [hrun]
    refine runsShaped_leaf (hc.insert ht' (hschema ▸ hc.name_eq htable)) ?_
    intro o' ho'
    cases ho'
    exact hshaped

theorem runsShaped_insert (hc : c.Valid) (table : String) (columns : List String)
    (values : List Value) :
    RunsShaped ((insert table columns values).run c)
      ((insert table columns values).checkedRun c) := by
  refine runsShaped_change hc fun t o t' ht h => ?_
  obtain ⟨inserted, hinsert, h⟩ := bind_eq_ok_iff.mp h
  cases h
  exact ⟨ht.insert hinsert, Table.schema_insert hinsert, trivial⟩

theorem runsShaped_update (hc : c.Valid) (table : String) (assignments : NameMap Value)
    (test : Option EqualityTest) :
    RunsShaped ((update table assignments test).run c)
      ((update table assignments test).checkedRun c) := by
  refine runsShaped_change hc fun t o t' ht h => ?_
  obtain ⟨⟨count, updated⟩, hupdate, h⟩ := bind_eq_ok_iff.mp h
  cases h
  have ht' := ht.update hupdate
  exact ⟨ht', Table.schema_update hupdate, Relation.shaped_ofTable ht'⟩

theorem runsShaped_delete (hc : c.Valid) (table : String) (test : EqualityTest) :
    RunsShaped ((delete table test).run c) ((delete table test).checkedRun c) := by
  refine runsShaped_change hc fun t o t' ht h => ?_
  obtain ⟨⟨count, remaining⟩, hdelete, h⟩ := bind_eq_ok_iff.mp h
  cases h
  exact ⟨ht.delete hdelete, Table.schema_delete hdelete, trivial⟩

theorem runsShaped_createTable (hc : c.Valid) (schema : Schema) :
    RunsShaped ((createTable schema).run c) ((createTable schema).checkedRun c) := by
  show RunsShaped (commit c (runCreate c schema)) (checkedLeaf (commit c (runCreate c schema)))
  rcases commit_cases c (runCreate c schema) with ⟨e, hrun⟩ | ⟨o, c', hok, hrun⟩
  · rw [hrun]
    exact runsShaped_leaf hc nofun
  · rw [hrun]
    refine runsShaped_leaf (valid_create hc hok) fun o' ho' => ?_
    obtain ⟨_, -, hok⟩ := bind_eq_ok_iff.mp hok
    obtain ⟨_, -, hok⟩ := bind_eq_ok_iff.mp hok
    cases hok
    cases ho'
    trivial

theorem runsShaped_scan (hc : c.Valid) (table : String) :
    RunsShaped ((scan table).run c) ((scan table).checkedRun c) := by
  refine runsShaped_leaf hc fun o ho => ?_
  obtain ⟨t, ht, rfl⟩ := map_eq_ok_iff.mp ho
  exact Relation.shaped_ofTable (hc.of_find ht)

/-! ## Stages -/

/-- **A stage that reads within shaped rows and makes shaped rows hands on what its source has.** -/
theorem RunsShaped.andThen {result : Except Error Outcome × Catalog}
    {checked : Checked Outcome × Catalog} (h : RunsShaped result checked)
    {stage : Catalog → Relation → Except Error Relation}
    {checkedStage : Catalog → Relation → Checked Relation}
    (hstage : ∀ c r, c.Valid → r.Shaped → checkedStage c r = unchecked (stage c r))
    (hshaped : ∀ c r r', c.Valid → r.Shaped → stage c r = .ok r' → r'.Shaped) :
    RunsShaped (andThen result stage) (checkedAndThen checked checkedStage) := by
  have hsource : ∀ o r, result.1 = .ok o → o.relation = .ok r → r.Shaped := by
    intro o r ho hr
    rw [Outcome.relation_eq_ok_iff.mp hr] at ho
    exact h.shaped _ ho
  refine ⟨h.valid, ?_, ?_⟩
  · intro answer hanswer
    obtain ⟨o, ho, hanswer⟩ := bind_eq_ok_iff.mp hanswer
    obtain ⟨r, hr, hanswer⟩ := bind_eq_ok_iff.mp hanswer
    obtain ⟨r', hr', hanswer⟩ := bind_eq_ok_iff.mp hanswer
    cases hanswer
    exact hshaped _ _ _ h.valid (hsource o r ho hr) hr'
  · rw [h.checked_eq]
    refine Prod.ext ?_ rfl
    refine unchecked_bind fun o ho => unchecked_bind fun r hr => ?_
    dsimp only
    rw [hstage _ _ h.valid (hsource o r ho hr)]
    exact unchecked_bind fun _ _ => rfl

/-- **Every plan runs shaped on a valid catalog.** -/
theorem runsShaped (hc : c.Valid) (p : Plan) : RunsShaped (p.run c) (p.checkedRun c) := by
  induction p with
  | createTable schema => exact runsShaped_createTable hc schema
  | insert table columns values => exact runsShaped_insert hc table columns values
  | update table assignments test => exact runsShaped_update hc table assignments test
  | delete table test => exact runsShaped_delete hc table test
  | scan table => exact runsShaped_scan hc table
  | join source table kind left right qualifier ih =>
      refine ih.andThen (fun c r hc hr => ?_) (fun c r r' hc hr h => ?_)
      · refine unchecked_bind fun t ht => ?_
        exact Relation.checkedJoin_eq hr (Relation.shaped_ofTable (hc.of_find ht)) _ _ _ _
      · obtain ⟨t, ht, h⟩ := bind_eq_ok_iff.mp h
        exact hr.join (Relation.shaped_ofTable (hc.of_find ht)) h
  | filter source conditions types ih =>
      exact ih.andThen (fun _ _ _ hr => Relation.checkedFilter_eq hr conditions types)
        fun _ _ _ _ hr h => hr.filter h
  | group source groupBy items having types ih =>
      exact ih.andThen (fun _ _ _ hr => Relation.checkedGroup_eq hr groupBy items having types)
        fun _ _ _ _ _ h => Relation.Shaped.group h
  | distinct source columns ih =>
      exact ih.andThen (fun _ _ _ hr => Relation.checkedDistinct_eq hr columns)
        fun _ _ _ _ hr h => hr.distinct h
  | sort source key ih =>
      exact ih.andThen (fun _ _ _ hr => Relation.checkedSort_eq hr key)
        fun _ _ _ _ hr h => hr.sort h
  | skip source count ih =>
      refine ih.andThen (fun _ _ _ _ => rfl) fun _ r r' _ hr h => ?_
      cases h
      exact hr.of_subset (List.drop_subset _ _)
  | take source count ih =>
      refine ih.andThen (fun _ _ _ _ => rfl) fun _ r r' _ hr h => ?_
      cases h
      exact hr.of_subset (List.take_subset _ _)
  | project source items ih =>
      exact ih.andThen (fun _ _ _ hr => Relation.checkedProject_eq hr items)
        fun _ _ _ _ _ h => Relation.Shaped.project h

/-- **No plan reads beyond a row.**  On the catalog that a run of statements ends with, whatever a
plan answers with rows has one value per column in each row, and the run that checks every position
at which a stage reads a row of its source finds each of them within the row, so that it answers
what the run does. -/
theorem checkedRun_executeAll (statements : List String) (p : Plan) :
    let c := (Session.executeAll ∅ statements).2
    (∀ r, ((p.run c).1 = .ok (.rows r) ∨ ∃ count, (p.run c).1 = .ok (.updated count r)) →
      ∀ row ∈ r.rows, row.length = r.columns.length) ∧
    (∀ row i, (p.checkedRun c).1 ≠ .error (.beyondRow row i)) ∧
    p.checkedRun c = (unchecked (p.run c).1, (p.run c).2) := by
  intro c
  obtain ⟨-, hshaped, hchecked⟩ := runsShaped (Catalog.valid_executeAll statements) p
  refine ⟨?_, ?_, hchecked⟩
  · rintro r (hanswer | ⟨count, hanswer⟩)
    · exact hshaped _ hanswer
    · exact hshaped _ hanswer
  · intro row i hfault
    rw [hchecked] at hfault
    cases hanswer : (p.run c).1 <;> rw [hanswer] at hfault <;> cases hfault

/-- A join that pads its only row with nulls, which are then read by position. -/
theorem checkedRun_executeAll_paddedJoin :
    let c := (Session.executeAll ∅ ["CREATE TABLE t (a INT, b TEXT)",
      "INSERT INTO t (a, b) VALUES (1, 'x')"]).2
    let p : Plan := .project (.join (.scan "t") "t" .left "a" "u.b" "u") [.star, .column "u.b" "b"]
    let r : Relation := ⟨["a", "b", "u.a", "u.b", "b"],
      [[.integer 1, .text "x", .null, .null, .null]]⟩
    (p.run c).1 = .ok (.rows r) ∧ (∀ row ∈ r.rows, row.length = 5) ∧
      (p.checkedRun c).1 = .ok (.rows r) := by
  intro c p r
  have hanswer : (p.run c).1 = .ok (.rows r) := by decide +kernel
  obtain ⟨hshaped, -, hchecked⟩ := checkedRun_executeAll ["CREATE TABLE t (a INT, b TEXT)",
    "INSERT INTO t (a, b) VALUES (1, 'x')"] p
  refine ⟨hanswer, hshaped r (.inl hanswer), ?_⟩
  rw [hchecked]
  show unchecked (p.run c).1 = _
  rw [hanswer]
  rfl

end Plan

end RelStore
