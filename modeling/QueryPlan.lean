import QueryPlan.Diagnostics
import QueryPlan.Interchange
import QueryPlan.Proofs.Stages
import QueryPlan.Records
import QueryPlan.Settings.Loading
import QueryPlan.Sqlite.Cell
import QueryPlan.Sqlite.Options
import QueryPlan.Proofs.BoundValues
import QueryPlan.Proofs.Sql.Token
import QueryPlan.Proofs.Sql.Lexical
import QueryPlan.Proofs.Filtering
import QueryPlan.Proofs.Outcome
import QueryPlan.Proofs.Conformance
import QueryPlan.Proofs.Inheritance
import QueryPlan.Proofs.Patterns
import QueryPlan.Proofs.Strictness
import QueryPlan.Proofs.Dropping
import QueryPlan.Proofs.Disjunction
import QueryPlan.Proofs.Permission
import QueryPlan.Proofs.Definition
import QueryPlan.Proofs.Window
import QueryPlan.Proofs.Parameters
import QueryPlan.Proofs.Ceilings
import QueryPlan.Proofs.Walk
import QueryPlan.Proofs.PageNumber
import QueryPlan.Proofs.Renderings
import QueryPlan.Proofs.Disclosure
import QueryPlan.Proofs.Regrouping
import QueryPlan.Proofs.Raising
import QueryPlan.Proofs.Spelling
import QueryPlan.Proofs.Overriding
import QueryPlan.Proofs.Calendar.Canonical
import QueryPlan.Proofs.Calendar.Order
import QueryPlan.Proofs.Chronology
import QueryPlan.Proofs.Substitution
import QueryPlan.Proofs.Listings
import QueryPlan.Proofs.RowOrder
import QueryPlan.Proofs.Sql.Ordering
import QueryPlan.Proofs.NullPlacement
import QueryPlan.Proofs.Flags
import QueryPlan.Proofs.Blanks
import QueryPlan.Proofs.Rounding
import QueryPlan.Proofs.IntegerOperands
import QueryPlan.Proofs.DecimalIntegers
import QueryPlan.Proofs.NullEntries
import QueryPlan.Proofs.SortLists
import QueryPlan.Proofs.Restarting
import QueryPlan.Proofs.Saturation
import QueryPlan.Proofs.Sqlite.Refusal
import QueryPlan.Proofs.Sqlite.Decoding
