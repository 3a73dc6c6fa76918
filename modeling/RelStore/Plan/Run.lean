import RelStore.Outcome.Basic
import RelStore.Plan.Basic
import RelStore.Relation.Filter
import RelStore.Relation.Group
import RelStore.Relation.Join
import RelStore.Relation.Project
import RelStore.Relation.Sort

/-!
# Carrying out plans

A plan is run on a catalog and answers an outcome or an error, and the catalog afterwards.  Only
the leaves that declare and change tables make a new catalog, and only when they succeed; the
other stages make a relation of the relation that their source answers.
-/

namespace RelStore

namespace Plan

/-- The answer and catalog of a change that either succeeds or leaves the catalog as it was. -/
def commit (c : Catalog) : Except Error (Outcome × Catalog) → Except Error Outcome × Catalog
  | .ok (outcome, changed) => (.ok outcome, changed)
  | .error e => (.error e, c)

/-- The answer of a stage to what its source answered, the catalog staying as the source left
it. -/
def andThen (result : Except Error Outcome × Catalog)
    (stage : Catalog → Relation → Except Error Relation) : Except Error Outcome × Catalog :=
  (do
    let relation ← (← result.1).relation
    return .rows (← stage result.2 relation), result.2)

/-- Declares a table. -/
def runCreate (c : Catalog) (schema : Schema) : Except Error (Outcome × Catalog) := do
  schema.validate
  return (.created schema.name, ← c.create schema)

/-- Adds a row to a table. -/
def runInsert (c : Catalog) (table : String) (columns : List String) (values : List Value) :
    Except Error (Outcome × Catalog) :=
  c.change table fun t => do
    return (.inserted 1, ← t.insert columns values)

/-- Assigns columns of a table. -/
def runUpdate (c : Catalog) (table : String) (assignments : NameMap Value)
    (test : Option EqualityTest) : Except Error (Outcome × Catalog) :=
  c.change table fun t => do
    let (count, t) ← t.update assignments test
    return (.updated count (.ofTable t), t)

/-- Removes rows of a table. -/
def runDelete (c : Catalog) (table : String) (test : EqualityTest) :
    Except Error (Outcome × Catalog) :=
  c.change table fun t => do
    let (count, t) ← t.delete test
    return (.deleted count, t)

/-- Carries out a plan: what it answers, and the catalog afterwards. -/
def run (c : Catalog) : Plan → Except Error Outcome × Catalog
  | createTable schema => commit c (runCreate c schema)
  | insert table columns values => commit c (runInsert c table columns values)
  | update table assignments test => commit c (runUpdate c table assignments test)
  | delete table test => commit c (runDelete c table test)
  | scan table => ((c.find table).map fun t => .rows (.ofTable t), c)
  | join source table kind left right qualifier =>
    andThen (source.run c) fun c r => do
      r.join (← c.find table) kind left right qualifier
  | filter source conditions types =>
    andThen (source.run c) fun _ r => r.filter conditions types
  | group source groupBy items having types =>
    andThen (source.run c) fun _ r => r.group groupBy items having types
  | distinct source columns => andThen (source.run c) fun _ r => r.distinct columns
  | sort source key => andThen (source.run c) fun _ r => r.sort key
  | skip source count => andThen (source.run c) fun _ r => .ok (r.skip count.toNat)
  | take source count => andThen (source.run c) fun _ r => .ok (r.take count.toNat)
  | project source items => andThen (source.run c) fun _ r => r.project items

end Plan

end RelStore
