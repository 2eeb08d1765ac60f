import DialectBinder.Binding.Basic

/-! The diagnostics of binding. -/

namespace DialectBinder.BindingTables

def diagnostic (tables : BindingTables) (span : Span) (message : Message) (arguments : List String) : Diagnostic :=
  .ofMessage tables.file span message arguments

/-- The name means two unrelated things. -/
def ambiguousReference (tables : BindingTables) (name : String) (result : LookupResult) (span : Span) :
    List Diagnostic :=
  match result.problem, result.symbols with
  | some (.ambiguous first second), _ | _, first :: second :: _ =>
      [tables.diagnostic span .ambiguousReference
        [name, tables.symbols.qualifiedName first, tables.symbols.qualifiedName second]]
  | _, _ => []

/-- The first symbol that is out of reach. -/
def inaccessibleSymbol (tables : BindingTables) (result : LookupResult) (span : Span) : List Diagnostic :=
  match result.problem, result.symbols with
  | some (.inaccessible symbol), _ | _, symbol :: _ =>
      (inaccessibleDiagnostic tables.symbols ⟨tables.file, span⟩ symbol).toList
  | _, _ => []

def parameterText (tables : BindingTables) (parameter : Parameter) : String :=
  let name := tables.types.name parameter.type
  match parameter.passing with
  | .byValue => name
  | .byRef => "REF " ++ name
  | .byOut => "OUT " ++ name
  | .byIn => "IN " ++ name

/-- A member with its parameter types. -/
def signatureText (tables : BindingTables) (member : Member) : String :=
  let parameters := ", ".intercalate (member.parameters.map tables.parameterText)
  s!"{member.container}.{member.name}({parameters})"

def ambiguousCall (tables : BindingTables) (first second : Member) (span : Span) : Diagnostic :=
  tables.diagnostic span .ambiguousCall [tables.signatureText first, tables.signatureText second]

def noApplicableOverload (tables : BindingTables) (name : String) (span : Span) : Diagnostic :=
  tables.diagnostic span .noApplicableOverload [name]

/-- One of several functions of a name was taken because of where its assembly is referenced. -/
def functionChosen (tables : BindingTables) (member : Member) (span : Span) : Diagnostic :=
  tables.diagnostic span .functionChosen [member.name, tables.assemblies.name member.assembly]

def cannotConvert (tables : BindingTables) (source target : TypeId) (span : Span) : Diagnostic :=
  tables.diagnostic span .cannotConvert [tables.types.name source, tables.types.name target]

/-- The advice that the marks of an expression carry, placed at the expression or, if it has no
source text, at `fallback`. -/
def conversionWarnings (tables : BindingTables) (marks : Annotations) (expr : ExprId) (source target : TypeId)
    (fallback : Span) : List Diagnostic :=
  let own := tables.exprs.spanOf expr
  let span := if own.isDummy then fallback else own
  let names := [tables.types.name source, tables.types.name target]
  (if marks.signChange then [tables.diagnostic span .signChange names] else []) ++
    (if marks.narrowing then [tables.diagnostic span .narrowing names] else [])

end DialectBinder.BindingTables
