import DialectBinder.Call.Overload
import DialectBinder.Lookup.Report

/-! What binding reads and what it changes. The tables of a compilation unit stay as they are while
it is bound; diagnostics and annotations accumulate. -/

namespace DialectBinder

/-- The tables of a compilation unit. -/
structure BindingTables where
  types : TypeTable
  symbols : SymbolArena
  scopes : ScopeArena
  assemblies : AssemblyTable
  exprs : ExprArena
  signatures : SignatureTable
  options : Options
  /-- Name of the file that diagnostics are about. -/
  file : String

namespace BindingTables

def lookupContext (tables : BindingTables) : LookupContext := ⟨tables.symbols, tables.scopes, tables.options⟩

def classifier (tables : BindingTables) : Classifier :=
  { types := tables.types, exprs := tables.exprs, options := tables.options }

def tieBreaker (tables : BindingTables) : TieBreaker :=
  ⟨tables.types, tables.exprs, tables.options, tables.assemblies⟩

def resolver (tables : BindingTables) : OverloadResolver := ⟨tables.classifier, tables.tieBreaker⟩

end BindingTables

/-- What binding has found and decided so far. -/
structure BindingState where
  annotations : AnnotationTable := {}
  diagnostics : DiagnosticBag := {}

def BindingState.report (state : BindingState) (diagnostics : List Diagnostic) : BindingState :=
  { state with diagnostics := state.diagnostics.extend diagnostics }

end DialectBinder
