import RelStore.Plan.Run
import RelStore.Relation.Sorter

/-!
# Carrying out plans with a given sort

A plan is carried out as it always is but for its rows, which are sorted by a given sort.  If that
gives up, there is no answer.
-/

namespace RelStore

namespace Plan

/-- The answer of the sorting stage to what its source answered. -/
def sortStage (sorter : Sorter) (key : SortKey) (result : Except Error Outcome × Catalog) :
    Option (Except Error Outcome × Catalog) :=
  match result.1 >>= Outcome.relation with
  | .ok r => (r.sortWith sorter key).map fun sorted => (sorted.map .rows, result.2)
  | .error e => some (.error e, result.2)

/-- Carries out a plan with the sort: what it answers, and the catalog afterwards. -/
def runWith (sorter : Sorter) (c : Catalog) : Plan → Option (Except Error Outcome × Catalog)
  | join source table kind left right qualifier =>
    (source.runWith sorter c).map (andThen · fun c r => do
      r.join (← c.find table) kind left right qualifier)
  | filter source conditions types =>
    (source.runWith sorter c).map (andThen · fun _ r => r.filter conditions types)
  | group source groupBy items having types =>
    (source.runWith sorter c).map (andThen · fun _ r => r.group groupBy items having types)
  | distinct source columns =>
    (source.runWith sorter c).map (andThen · fun _ r => r.distinct columns)
  | sort source key => (source.runWith sorter c).bind (sortStage sorter key)
  | skip source count =>
    (source.runWith sorter c).map (andThen · fun _ r => .ok (r.skip count.toNat))
  | take source count =>
    (source.runWith sorter c).map (andThen · fun _ r => .ok (r.take count.toNat))
  | project source items => (source.runWith sorter c).map (andThen · fun _ r => r.project items)
  | leaf => some (leaf.run c)

end Plan

end RelStore
