import AccessPolicy.Calendar.Date
import AccessPolicy.Calendar.Directive
import AccessPolicy.Calendar.Fields
import AccessPolicy.Calendar.Instant
import AccessPolicy.Calendar.Offset
import AccessPolicy.Calendar.Printer
import AccessPolicy.Calendar.Reading
import AccessPolicy.Calendar.Scanner
import AccessPolicy.Calendar.Span
import AccessPolicy.Calendar.Steps
import AccessPolicy.CommandLine.Arguments
import AccessPolicy.CommandLine.Help
import AccessPolicy.CommandLine.Program
import AccessPolicy.Decision.DenyOverrides
import AccessPolicy.Decision.Matching
import AccessPolicy.Decision.RoleGrants
import AccessPolicy.Decision.RoleGraph
import AccessPolicy.Directory
import AccessPolicy.Entries
import AccessPolicy.Expression.Condition
import AccessPolicy.Expression.Context
import AccessPolicy.Expression.Engine
import AccessPolicy.Expression.Error
import AccessPolicy.Expression.Exec
import AccessPolicy.Expression.Key
import AccessPolicy.Expression.Library
import AccessPolicy.Expression.Pipe
import AccessPolicy.Expression.Registry
import AccessPolicy.Expression.Scan
import AccessPolicy.Expression.Template
import AccessPolicy.Expression.Tree
import AccessPolicy.Json.Coercion
import AccessPolicy.Json.Path
import AccessPolicy.Json.Reader
import AccessPolicy.Json.Record
import AccessPolicy.Json.Value
import AccessPolicy.Json.Writer
import AccessPolicy.Main
import AccessPolicy.Number.Binary64
import AccessPolicy.Number.Decimal
import AccessPolicy.Number.Whole
import AccessPolicy.Pattern.Cache
import AccessPolicy.Pattern.CharClass
import AccessPolicy.Pattern.ClassTable
import AccessPolicy.Pattern.Property
import AccessPolicy.Pattern.PropertyTable
import AccessPolicy.Pattern.Regex
import AccessPolicy.Pattern.RegexReader
import AccessPolicy.Pattern.Wildcard
import AccessPolicy.Policy.Claims
import AccessPolicy.Policy.Config
import AccessPolicy.Policy.Document
import AccessPolicy.Policy.Error
import AccessPolicy.Policy.Request
import AccessPolicy.Policy.Source
import AccessPolicy.Policy.Statement
import AccessPolicy.Proofs.Calendar.Date
import AccessPolicy.Proofs.Calendar.Fields
import AccessPolicy.Proofs.Calendar.Outside
import AccessPolicy.Proofs.Calendar.RoundTrip
import AccessPolicy.Proofs.Calendar.Rounding
import AccessPolicy.Proofs.Calendar.Scanner
import AccessPolicy.Proofs.Calendar.Shifting
import AccessPolicy.Proofs.Calendar.Steps
import AccessPolicy.Proofs.Decision.Answer
import AccessPolicy.Proofs.Decision.Cycles
import AccessPolicy.Proofs.Decision.Definitions
import AccessPolicy.Proofs.Decision.DenyOverrides
import AccessPolicy.Proofs.Decision.DepthLimit
import AccessPolicy.Proofs.Decision.Distinct
import AccessPolicy.Proofs.Decision.Expansion
import AccessPolicy.Proofs.Decision.Failures
import AccessPolicy.Proofs.Decision.FlatRoles
import AccessPolicy.Proofs.Decision.Listing
import AccessPolicy.Proofs.Decision.Lockdown
import AccessPolicy.Proofs.Decision.Matching
import AccessPolicy.Proofs.Decision.Recursion
import AccessPolicy.Proofs.Decision.RoleGrants
import AccessPolicy.Proofs.Decision.RoleGraph
import AccessPolicy.Proofs.Decision.Session
import AccessPolicy.Proofs.Directory
import AccessPolicy.Proofs.Entries
import AccessPolicy.Proofs.Expression.Conjunction
import AccessPolicy.Proofs.Expression.Containers
import AccessPolicy.Proofs.Expression.Engine
import AccessPolicy.Proofs.Expression.Guards
import AccessPolicy.Proofs.Expression.Interpolation
import AccessPolicy.Proofs.Expression.Key
import AccessPolicy.Proofs.Expression.Lookup
import AccessPolicy.Proofs.Expression.Objects
import AccessPolicy.Proofs.Expression.PlainDocuments
import AccessPolicy.Proofs.Expression.References
import AccessPolicy.Proofs.Expression.Repetition
import AccessPolicy.Proofs.Expression.Resolvers
import AccessPolicy.Proofs.Expression.Scan
import AccessPolicy.Proofs.Expression.Segments
import AccessPolicy.Proofs.Expression.Template
import AccessPolicy.Proofs.Json.Record
import AccessPolicy.Proofs.Number.Binary64
import AccessPolicy.Proofs.Number.Whole
import AccessPolicy.Proofs.Pattern.Anchored
import AccessPolicy.Proofs.Pattern.Cache
import AccessPolicy.Proofs.Pattern.Calls
import AccessPolicy.Proofs.Pattern.Enclosed
import AccessPolicy.Proofs.Pattern.EnclosedAtoms
import AccessPolicy.Proofs.Pattern.EnclosedClasses
import AccessPolicy.Proofs.Pattern.EnclosedGroups
import AccessPolicy.Proofs.Pattern.Glob
import AccessPolicy.Proofs.Pattern.Parts
import AccessPolicy.Proofs.Pattern.PlainGlob
import AccessPolicy.Proofs.Pattern.Resource
import AccessPolicy.Proofs.Pattern.Spans
import AccessPolicy.Proofs.Pattern.Wildcard
import AccessPolicy.Proofs.Policy.Claims
import AccessPolicy.Proofs.Policy.Compiled
import AccessPolicy.Proofs.Policy.Document
import AccessPolicy.Proofs.Policy.Loading
import AccessPolicy.Proofs.Policy.Normalization
import AccessPolicy.Proofs.Policy.Request
import AccessPolicy.Proofs.Policy.Source
import AccessPolicy.Proofs.Standard.DatePipes
import AccessPolicy.Proofs.Standard.ListPipes
import AccessPolicy.Proofs.Standard.NumberPipes
import AccessPolicy.Proofs.Standard.ObjectPipes
import AccessPolicy.Proofs.Standard.TextOperators
import AccessPolicy.Proofs.Standard.TextPipes
import AccessPolicy.Proofs.Text.FormEncoding
import AccessPolicy.Proofs.Text.Pieces
import AccessPolicy.Proofs.Text.Trim
import AccessPolicy.Proofs.Trace
import AccessPolicy.Standard.DatePipes
import AccessPolicy.Standard.Library
import AccessPolicy.Standard.ListPipes
import AccessPolicy.Standard.Logging
import AccessPolicy.Standard.NumberPipes
import AccessPolicy.Standard.ObjectPipes
import AccessPolicy.Standard.Operators
import AccessPolicy.Standard.TextPipes
import AccessPolicy.Text.Blank
import AccessPolicy.Text.Case
import AccessPolicy.Text.CaseTable
import AccessPolicy.Text.FormEncoding
import AccessPolicy.Text.Pieces
import AccessPolicy.Toml.Reader
import AccessPolicy.Toml.Scalar
import AccessPolicy.Toml.Table
import AccessPolicy.Toml.Text
import AccessPolicy.Trace
