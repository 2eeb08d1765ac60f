import DialectBinder.Diagnostic.Bag
import DialectBinder.Lookup.Search

/-! Diagnostics about a lookup, reported when the request asks for them. -/

namespace DialectBinder

/-- Where diagnostics are reported from. -/
structure ReportPlace where
  file : String
  span : Span
deriving DecidableEq, Repr

/-- A symbol is out of reach; its declaration is pointed to. -/
def inaccessibleDiagnostic (symbols : SymbolArena) (place : ReportPlace) (id : SymbolId) : Option Diagnostic :=
  (symbols.get? id).map fun symbol =>
    let qualified := symbols.qualifiedName id
    (Diagnostic.ofMessage place.file place.span .inaccessible [qualified, symbol.accessibility.text]).withRelated
      ⟨place.file, symbol.span, s!"'{qualified}' is declared here."⟩

namespace LookupContext

/-- A warning for each free function that was not taken and each method that was. -/
def functionWarnings (context : LookupContext) (place : ReportPlace) (name : String) (result : LookupResult)
    (functions : List SymbolId) : List Diagnostic :=
  let passedOver := functions.filter fun id => !result.contains id && context.symbols.isMethod id
  let chosen := result.symbols.filter context.symbols.isMethod
  passedOver.flatMap fun function => chosen.map fun method =>
    .ofMessage place.file place.span .functionOrMethod
      [name, context.symbols.qualifiedName function, context.symbols.qualifiedName method]

/-- An error if all there is under the name is one field out of reach. -/
def inaccessibleField (context : LookupContext) (place : ReportPlace) (result : LookupResult) : List Diagnostic :=
  match result.kind, result.symbols with
  | .inaccessible, [id] =>
      if context.symbols.satisfies (·.isField) id then
        (inaccessibleDiagnostic context.symbols place id).toList
      else []
  | _, _ => []

/-- What a request that asks for diagnostics reports. -/
def reports (context : LookupContext) (request : LookupRequest) (place : ReportPlace) : List Diagnostic :=
  if request.filter.diagnose then
    let result := context.walked request
    let functions := context.freeFunctions request
    let warnings := if context.functionsDisplace result functions then []
      else context.functionWarnings place request.name result functions
    warnings ++ context.inaccessibleField place (context.search request).result
  else []

/-- Answer a request and report what is wrong. -/
def lookup (context : LookupContext) (request : LookupRequest) (place : ReportPlace) (bag : DiagnosticBag) :
    LookupOutcome × DiagnosticBag :=
  (context.search request, bag.extend (context.reports request place))

end LookupContext

end DialectBinder
