import DialectBinder.Binding.Report

/-! Binding of invocations: the name is looked up, an overload chosen and the arguments
converted. -/

namespace DialectBinder

/-- A call of a name from a scope. -/
structure Invocation where
  name : String
  scope : ScopeId
  arguments : List Argument := []
  span : Span := .dummy
deriving DecidableEq, Repr

structure BoundInvocation where
  /-- What is called, also where an ambiguous call had to be settled. -/
  symbol : Option SymbolId := none
  resolution : Resolution := .noApplicable
  /-- The conversion of each argument. -/
  conversions : List Conversion := []
deriving DecidableEq, Repr

namespace BoundInvocation

def unbound : BoundInvocation := {}

end BoundInvocation

namespace BindingTables

/-- What the lookup of an invocation asks for. -/
def invocationRequest (call : Invocation) : LookupRequest :=
  { name := call.name, scope := call.scope,
    filter := { mustBeInvocable := true, diagnose := true } }

/-- The advice on the arguments of a call, from the marks they carry. -/
def argumentWarnings (tables : BindingTables) (annotations : AnnotationTable) (span : Span) :
    List Argument → List ArgumentBinding → List Diagnostic
  | argument :: arguments, binding :: bindings =>
      (match argument.expr with
        | some expr =>
            tables.conversionWarnings
              (annotations.get expr) expr argument.type binding.parameter.type span
        | none => []) ++ tables.argumentWarnings annotations span arguments bindings
  | _, _ => []

/-- Call a member: convert the arguments and report the advice on them. -/
def bindMember (tables : BindingTables) (call : Invocation) (resolution : Resolution)
    (member : Member)
    (state : BindingState) : BoundInvocation × BindingState :=
  let (bindings, annotations) :=
    tables.classifier.commitArguments state.annotations member call.arguments
  (⟨some member.symbol, resolution, bindings.map (·.conversion)⟩,
    { state with annotations }.report
      (tables.argumentWarnings annotations call.span call.arguments bindings))

/-- Go on from the choice among the members of a method group. An ambiguous call is reported and
then goes to the first of the two members in question. -/
def bindResolved (tables : BindingTables) (call : Invocation) (candidates : List Member)
    (state : BindingState) :
    Resolution → BoundInvocation × BindingState
  | .success index byTieBreak ambiguous =>
      match candidates[index]? with
      | some member =>
          tables.bindMember call (.success index byTieBreak ambiguous) member
            (if ambiguous then state.report [tables.functionChosen member call.span] else state)
      | none => (.unbound, state)
  | .ambiguous first second =>
      match candidates[first]?, candidates[second]? with
      | some chosen, some other =>
          tables.bindMember call (.ambiguous first second) chosen
            (state.report [tables.ambiguousCall chosen other call.span])
      | some chosen, none => tables.bindMember call (.ambiguous first second) chosen state
      | none, _ => (.unbound, state)
  | .noApplicable => (.unbound, state.report [tables.noApplicableOverload call.name call.span])

/-- Choose among the members of a method group, and go on from there. -/
def bindCandidates (tables : BindingTables) (call : Invocation) (candidates : List Member)
    (state : BindingState) :
    BoundInvocation × BindingState :=
  tables.bindResolved call candidates state (tables.resolver.resolve candidates call.arguments)

/-- Bind a call. A name that means nothing callable, or nothing in particular, leaves it unbound. -/
def bindInvocation (tables : BindingTables) (call : Invocation) (state : BindingState) :
    BoundInvocation × BindingState :=
  let (outcome, diagnostics) :=
    tables.lookupContext.lookup (invocationRequest call) ⟨tables.file, call.span⟩ state.diagnostics
  let found := { state with diagnostics }
  match outcome.result.kind with
  | .empty => (.unbound, found)
  | .inaccessible => (.unbound, found.report (tables.inaccessibleSymbol outcome.result call.span))
  | .ambiguous =>
    (.unbound, found.report (tables.ambiguousReference call.name outcome.result call.span))
  | .viable | .multiViable =>
      tables.bindCandidates call (tables.signatures.candidates outcome.result.symbols) found

end BindingTables

end DialectBinder
