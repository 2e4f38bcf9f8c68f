import DataAccess.Arity
import DataAccess.Builder.Compile
import DataAccess.Builder.Options
import DataAccess.Builder.Query
import DataAccess.Builder.Write
import DataAccess.Calendar
import DataAccess.Condition
import DataAccess.Dialect
import DataAccess.Fault
import DataAccess.Json.Doc
import DataAccess.Json.Read
import DataAccess.Model.Catalog
import DataAccess.Model.Declare
import DataAccess.Model.Meta
import DataAccess.Model.Record
import DataAccess.Model.Relation
import DataAccess.Number.Decimal
import DataAccess.Number.Shortest
import DataAccess.Proofs.Clauses
import DataAccess.Proofs.Conditions
import DataAccess.Proofs.Conversion
import DataAccess.Proofs.HardLimits
import DataAccess.Proofs.InsertKeys
import DataAccess.Proofs.WriteKeys
import DataAccess.Proofs.Nesting
import DataAccess.Proofs.Refusals
import DataAccess.Proofs.RefusalOrder
import DataAccess.Proofs.Effects
import DataAccess.Proofs.Footprint
import DataAccess.Proofs.Lockstep
import DataAccess.Proofs.Markers
import DataAccess.Proofs.Placeholders
import DataAccess.Proofs.Plain
import DataAccess.Proofs.Retry
import DataAccess.Proofs.Routing
import DataAccess.Proofs.Run
import DataAccess.Proofs.Statements
import DataAccess.Proofs.UpdateMany
import DataAccess.Request.Answer
import DataAccess.Request.Common
import DataAccess.Request.Members
import DataAccess.Request.Objects
import DataAccess.Request.Session
import DataAccess.Request.Statements
import DataAccess.Session.Database
import DataAccess.Session.Middleware
import DataAccess.Session.Operations
import DataAccess.Session.Relations
import DataAccess.Session.Script
import DataAccess.Session.State
import DataAccess.Settings
import DataAccess.Sql.Fragment
import DataAccess.Sql.Identifier
import DataAccess.Sql.Placeholder
import DataAccess.Sql.Precedence
import DataAccess.Sql.Statement
import DataAccess.Term.Basic
import DataAccess.Term.Eval
import DataAccess.Unicode.Case
import DataAccess.Unicode.Casing
import DataAccess.Unicode.Digit
import DataAccess.Unicode.Printable
import DataAccess.Unicode.Space
import DataAccess.Unicode.Surrogate
import DataAccess.Unicode.Word
import DataAccess.Value.Arith
import DataAccess.Value.Basic
import DataAccess.Value.Json
import DataAccess.Value.Sequence
import DataAccess.Value.Text
import DataAccess.Wire.Decode
import DataAccess.Wire.Encode
import DataAccess.Wire.Spec
import DataAccess.Proofs.Footprint
import DataAccess.Proofs.RelationCache
import DataAccess.Proofs.Subqueries
import DataAccess.Proofs.KeyLookup
import DataAccess.Proofs.MiddlewareChain
import DataAccess.Proofs.HookCalls
import DataAccess.Proofs.CallFrames
import DataAccess.Proofs.StickyReads
import DataAccess.Proofs.InsertValues
import DataAccess.Proofs.UpdatePlan
import DataAccess.Proofs.DialectFates
import DataAccess.Proofs.BatchLoad
import DataAccess.Proofs.ConflictText
import DataAccess.Proofs.LeadingVerb
import DataAccess.Proofs.SelectVerdict
import DataAccess.Proofs.GuardedMarkers
import DataAccess.Proofs.UnnestTypes
import DataAccess.Proofs.Inheritance
import DataAccess.Proofs.Operands
import DataAccess.Proofs.Conjuncts
