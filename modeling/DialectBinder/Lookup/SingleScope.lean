import DialectBinder.Lookup.Filter
import DialectBinder.Lookup.Result
import DialectBinder.Options.Basic
import DialectBinder.Scope

/-! What one scope offers for a name: its own declarations, then the members that its kind makes
visible, sorted into those that the place of the lookup may use and those it may not. -/

namespace DialectBinder

/-- The tables a lookup reads. -/
structure LookupContext where
  symbols : SymbolArena
  scopes : ScopeArena
  options : Options

/-- A question for the meaning of a name at a place. -/
structure LookupRequest where
  name : String
  arity : Nat := 0
  /-- The scope of the place. -/
  scope : ScopeId
  filter : LookupFilter := {}
deriving DecidableEq, Repr

namespace LookupContext

/-- Members of a type and of its first base types, `levels` types in all. A method group goes on
into the base type; any other member hides what is there. -/
def inheritedMembers (context : LookupContext) (name : String) : Nat → SymbolId → List SymbolId
  | 0, _ => []
  | levels + 1, type =>
      match context.symbols.get? type with
      | none => []
      | some symbol =>
          let own := symbol.membersNamed name
          if own.any (context.symbols.satisfies fun member => !member.isMethod) then own
          else
            match symbol.base with
            | some base => own ++ context.inheritedMembers name levels base
            | none => own

/-- Members of an existing container, none of a missing one. -/
def containerMembers (context : LookupContext) (name : String) (container : SymbolId) : List SymbolId :=
  match context.symbols.get? container with
  | some symbol => symbol.membersNamed name
  | none => []

/-- Members that an import makes visible: static ones and types. -/
def importedMembers (context : LookupContext) (name : String) (container : SymbolId) : List SymbolId :=
  (context.containerMembers name container).filter
    (context.symbols.satisfies fun member => member.isStatic || member.isType)

/-- Every symbol that the scope offers for a name or for one that differs in case, with repetitions. -/
def offered (context : LookupContext) (scope : Scope) (name : String) : List SymbolId :=
  scope.localsNamed name ++
    match scope.kind with
    | .block | .methodBody => []
    | .typeBody =>
        match scope.container with
        | some type => context.inheritedMembers name maxBaseDepth type
        | none => []
    | .namespaceBody =>
        (match scope.container with
          | some container => context.containerMembers name container
          | none => []) ++
        scope.imports.flatMap (context.importedMembers name)

/-- Whether the symbol exists, has the name and passes the filter. -/
def matchesRequest (context : LookupContext) (request : LookupRequest) : SymbolId → Bool :=
  context.symbols.satisfies fun symbol =>
    context.options.namesEqual symbol.name request.name && request.filter.admits request.arity symbol

/-- Whether code in the scope `origin` may use the symbol. What a type declares as private or
protected is open to the bodies of that type, or of those derived from it; without a declaring
type both words mean the module being compiled. -/
def isAccessible (context : LookupContext) (origin : ScopeId) (symbol : Symbol) : Bool :=
  match symbol.accessibility with
  | .publicAccess => true
  | .internalAccess => symbol.assembly.isCurrent
  | .privateAccess =>
      match declaringType symbol with
      | some type => (context.scopes.enclosingTypes origin).contains type
      | none => symbol.assembly.isCurrent
  | .protectedAccess =>
      match declaringType symbol with
      | some type =>
          (context.scopes.enclosingTypes origin).any fun enclosing => context.symbols.derivesFrom enclosing type
      | none => symbol.assembly.isCurrent
where
  declaringType (symbol : Symbol) : Option SymbolId := symbol.parent.filter context.symbols.isType

/-- The result of one scope for a request. -/
def lookupInScope (context : LookupContext) (request : LookupRequest) (scope : ScopeId) : LookupResult :=
  match context.scopes.get? scope with
  | none => .empty
  | some found =>
      let matching := (context.offered found request.name).eraseDups.filter (context.matchesRequest request)
      let accessible := context.symbols.satisfies (context.isAccessible request.scope)
      .ofCandidates context.symbols (matching.filter accessible) (matching.filter fun id => !accessible id)

end LookupContext

end DialectBinder
