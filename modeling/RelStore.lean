import RelStore.Text.Blank
import RelStore.Text.AsciiCase
import RelStore.Text.Alphabetic
import RelStore.Text.Numeric
import RelStore.Text.Unprintable
import RelStore.Integer64
import RelStore.Binary64.Arithmetic
import RelStore.Binary64.Decimal
import RelStore.Binary64.Shortest
import RelStore.NameMap
import RelStore.Value.Order
import RelStore.Aggregate.Basic
import RelStore.Token.Basic
import RelStore.Value.Cast
import RelStore.Catalog
import RelStore.Token.Parser
import RelStore.Grammar.Statement
import RelStore.Catalog.Dump
import RelStore.Relation.Filter
import RelStore.Relation.Join
import RelStore.Relation.Sort
import RelStore.Relation.Project
import RelStore.Relation.Group
import RelStore.Outcome.Grid
import RelStore.Session
import RelStore.Shell.Basic
import RelStore.Shell.Program
import RelStore.Main
import RelStore.Proofs.Result
import RelStore.Proofs.Store.Row
import RelStore.Proofs.Store.Change
import RelStore.Proofs.Store.Valid
import RelStore.Proofs.Session.Execution
import RelStore.Proofs.NameMap
import RelStore.Proofs.Session.Reachable
import RelStore.Proofs.Session.Atomicity
import RelStore.Proofs.Grammar.Accepted
import RelStore.Proofs.Session.Spellable
import RelStore.Proofs.Session.Restore
import RelStore.Proofs.Grammar.WellFormed
import RelStore.Proofs.Grammar.Lexemes
import RelStore.Proofs.Grammar.RoundTrip
import RelStore.Proofs.Plan.Shape
import RelStore.Proofs.Grammar.AcceptedQuery
import RelStore.Proofs.Session.Failure
import RelStore.Proofs.Plan.KeyedGroup
import RelStore.Proofs.Relation.StableSort
import RelStore.Proofs.Plan.Answer
import RelStore.Proofs.Relation.Selected
import RelStore.Proofs.Plan.Presented
import RelStore.Proofs.Plan.Ordered
import RelStore.Proofs.Plan.SourceTypes
import RelStore.Proofs.Session.Matching
import RelStore.Proofs.Grammar.Writing
import RelStore.Proofs.Relation.NestedLoop
import RelStore.Proofs.Plan.Joined
import RelStore.Proofs.Plan.Tables
import RelStore.Proofs.Session.Commuting
import RelStore.Proofs.Session.RowChange
import RelStore.Proofs.Session.Labelled
import RelStore.Proofs.Plan.Mirrored
import RelStore.Proofs.Session.TableChange
import RelStore.Proofs.Relation.Having
import RelStore.Proofs.Plan.GroupFilter
import RelStore.Proofs.Plan.DistinctGroups
import RelStore.Proofs.Plan.RollUp
import RelStore.Proofs.Plan.Paged
import RelStore.Proofs.Plan.GroupOrder
import RelStore.Proofs.Aggregate.RunningSum
import RelStore.Proofs.Value.Integral
import RelStore.Proofs.Value.Numeral
import RelStore.Proofs.Value.Fraction
import RelStore.Proofs.Value.Mixed
import RelStore.Proofs.Plan.Compared
import RelStore.Proofs.Plan.Conditions
import RelStore.Proofs.Plan.Extremes
import RelStore.Proofs.Store.KeyCheck
import RelStore.Proofs.Grammar.Numeral
import RelStore.Proofs.Plan.Qualified
import RelStore.Proofs.Session.Lookup
import RelStore.Proofs.Outcome.Grid
import RelStore.Proofs.Shell.Options
import RelStore.Proofs.Shell.Program
import RelStore.Proofs.Session.SingleLine
