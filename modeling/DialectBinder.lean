import DialectBinder.Annotations
import DialectBinder.Assembly
import DialectBinder.Binding.Assignment
import DialectBinder.Binding.Basic
import DialectBinder.Binding.Invocation
import DialectBinder.Binding.Report
import DialectBinder.Bounds
import DialectBinder.Call.Applicability
import DialectBinder.Call.Argument
import DialectBinder.Call.Member
import DialectBinder.Call.Overload
import DialectBinder.Call.TieBreak
import DialectBinder.Conversion.Basic
import DialectBinder.Conversion.Classification
import DialectBinder.Conversion.Classifier
import DialectBinder.Conversion.LegacyRule
import DialectBinder.Conversion.Standard
import DialectBinder.Diagnostic.Bag
import DialectBinder.Diagnostic.Basic
import DialectBinder.Diagnostic.Message
import DialectBinder.Diagnostic.Template
import DialectBinder.Dialect
import DialectBinder.Expr.Arena
import DialectBinder.Expr.Basic
import DialectBinder.Expr.Operand
import DialectBinder.Fault
import DialectBinder.Identity
import DialectBinder.Json.Value
import DialectBinder.Logging
import DialectBinder.Lookup.Filter
import DialectBinder.Lookup.Kind
import DialectBinder.Lookup.Report
import DialectBinder.Lookup.Result
import DialectBinder.Lookup.Search
import DialectBinder.Lookup.SingleScope
import DialectBinder.Options.Basic
import DialectBinder.Options.Reader
import DialectBinder.Proofs.AmbiguousCalls
import DialectBinder.Proofs.AnnotationJoins
import DialectBinder.Proofs.ArgumentCommit
import DialectBinder.Proofs.ArrayCovariance
import DialectBinder.Proofs.Betterness
import DialectBinder.Proofs.BindingEffects
import DialectBinder.Proofs.CandidateOrder
import DialectBinder.Proofs.CastBack
import DialectBinder.Proofs.CategoryReadings
import DialectBinder.Proofs.ComparisonDepth
import DialectBinder.Proofs.ConstructedTypes
import DialectBinder.Proofs.ConversionAdvice
import DialectBinder.Proofs.CoreExtension
import DialectBinder.Proofs.Displacement
import DialectBinder.Proofs.ElementChains
import DialectBinder.Proofs.ExprForest
import DialectBinder.Proofs.HierarchyPaths
import DialectBinder.Proofs.InvocationDepth
import DialectBinder.Proofs.InvocationOutcome
import DialectBinder.Proofs.LegacyOrigin
import DialectBinder.Proofs.Lists
import DialectBinder.Proofs.LookupGrowth
import DialectBinder.Proofs.LookupShape
import DialectBinder.Proofs.LookupSoundness
import DialectBinder.Proofs.MemberTables
import DialectBinder.Proofs.NaturalTypes
import DialectBinder.Proofs.OperandLeaves
import DialectBinder.Proofs.OperatorChoice
import DialectBinder.Proofs.OtherNames
import DialectBinder.Proofs.Permissiveness
import DialectBinder.Proofs.RawLayout
import DialectBinder.Proofs.Reconciliation
import DialectBinder.Proofs.ReferenceOrder
import DialectBinder.Proofs.References
import DialectBinder.Proofs.RegisteredTypes
import DialectBinder.Proofs.Reporting
import DialectBinder.Proofs.Resolution
import DialectBinder.Proofs.Retry
import DialectBinder.Proofs.RuleCascade
import DialectBinder.Proofs.Scheduling
import DialectBinder.Proofs.Shadowing
import DialectBinder.Proofs.SpanCover
import DialectBinder.Proofs.SymbolGrowth
import DialectBinder.Proofs.TemplateSegments
import DialectBinder.Proofs.TieBreakSymmetry
import DialectBinder.Proofs.TypeKeys
import DialectBinder.Scope
import DialectBinder.Span
import DialectBinder.Symbol.Arena
import DialectBinder.Symbol.Basic
import DialectBinder.Symbol.NameTable
import DialectBinder.Text.Blank
import DialectBinder.Text.Case
import DialectBinder.Types.Basic
import DialectBinder.Types.Category
import DialectBinder.Types.Hierarchy
import DialectBinder.Types.Predicate
import DialectBinder.Types.Properties
import DialectBinder.Types.Table
import DialectBinder.Types.WellKnown
