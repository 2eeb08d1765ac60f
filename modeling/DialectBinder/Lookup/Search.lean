import DialectBinder.Lookup.SingleScope

/-! The meaning of a name at a place. The scopes are walked from the inside out; the free functions
that the enclosing namespaces offer are found beforehand and may take the place of methods. -/

namespace DialectBinder

/-- Whether a container of this name holds free functions. -/
def isFunctionsContainer (container : String) : Bool := Text.endsIgnoringCase "Functions" container

structure LookupOutcome where
  result : LookupResult
  /-- The innermost scope with a result. -/
  bindingScope : Option ScopeId
deriving DecidableEq, Repr

namespace LookupContext

/-- A static method of a container of free functions. -/
def isFreeFunction (context : LookupContext) (id : SymbolId) : Bool :=
  context.symbols.isStaticMethod id && (context.symbols.containerName? id).any isFunctionsContainer

/-- The free functions of the first namespace scope that offers anything callable under the name;
none if what it offers is out of reach. -/
def freeFunctions (context : LookupContext) (request : LookupRequest) : List SymbolId :=
  if context.options.preferFunctions && !request.filter.mustBeInstance &&
    !request.filter.mustNotBeMethod then
    let invocable := { request with filter := { request.filter with mustBeInvocable := true } }
    let offers := fun scope =>
      if (context.scopes.get? scope).any Scope.isOutsideType then
        let found := context.lookupInScope invocable scope
        if found.isEmpty then none else some found
      else none
    match (context.scopes.chain request.scope).findSome? offers with
    | some found =>
        if found.kind == .inaccessible then [] else found.symbols.filter context.isFreeFunction
    | none => []
  else []

/-- Join the result of a scope to that of the inner ones. The first scope with a result binds the
name. -/
def visit (context : LookupContext) (request : LookupRequest) (reached : LookupOutcome)
    (scope : ScopeId) :
    LookupOutcome :=
  let found := context.lookupInScope request scope
  if found.isEmpty then reached
  else ⟨reached.result.merge context.symbols found, reached.bindingScope.or (some scope)⟩

/-- Visit the scopes in order, up to the first one that settles the name. An ambiguity goes on, so
that the ambiguous symbols of outer scopes join it. -/
def walk (context : LookupContext) (request : LookupRequest) (reached : LookupOutcome) :
    List ScopeId → LookupOutcome
  | [] => reached
  | scope :: outer =>
      let joined := context.visit request reached scope
      if joined.result.isSettled then joined else context.walk request joined outer

/-- The walk over all enclosing scopes. -/
def scopeWalk (context : LookupContext) (request : LookupRequest) : LookupOutcome :=
  context.walk request ⟨.empty, none⟩ (context.scopes.chain request.scope)

def walked (context : LookupContext) (request : LookupRequest) : LookupResult :=
  (context.scopeWalk request).result

/-- Whether free functions take the place of the walk's result. They displace as many other symbols
as they are, or the static methods that were found next to them. -/
def functionsDisplace (context : LookupContext) (result : LookupResult)
    (functions : List SymbolId) : Bool :=
  !functions.isEmpty && context.options.dialect.prefersFreeFunctions &&
    ((functions.length == result.symbols.length && !functions.any result.contains) ||
      (functions.length < result.symbols.length && functions.all result.contains &&
        result.symbols.all fun id => functions.contains id || context.symbols.isStaticMethod id))

def reconcile (context : LookupContext) (result : LookupResult)
    (functions : List SymbolId) : LookupResult :=
  if context.functionsDisplace result functions then .ofViable context.symbols functions else result

/-- The meaning of the name that the request asks for. -/
def search (context : LookupContext) (request : LookupRequest) : LookupOutcome where
  result := context.reconcile (context.walked request) (context.freeFunctions request)
  bindingScope := (context.scopeWalk request).bindingScope

end LookupContext

end DialectBinder
