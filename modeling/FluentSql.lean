import FluentSql.Engine
import FluentSql.Log.Session
import FluentSql.Query.Call
import FluentSql.Proofs.Coherence
import FluentSql.Proofs.Segments
import FluentSql.Proofs.Selection
import FluentSql.Proofs.Filling
import FluentSql.Proofs.Writes
import FluentSql.Proofs.History
import FluentSql.Proofs.Binding
import FluentSql.Proofs.Refusal
import FluentSql.Proofs.Independence
import FluentSql.Proofs.Masking
import FluentSql.Proofs.Grouping
import FluentSql.Proofs.Restriction
import FluentSql.Proofs.Blocks
import FluentSql.Proofs.Unambiguous
import FluentSql.Proofs.Ledger
import FluentSql.Proofs.Overrides
import FluentSql.Proofs.Aftermath
import FluentSql.Proofs.Aliasing
import FluentSql.Proofs.Widening
import FluentSql.Proofs.Legibility
import FluentSql.Proofs.Exchange
import FluentSql.Proofs.Unset
import FluentSql.Proofs.Emission
import FluentSql.Proofs.Wording
