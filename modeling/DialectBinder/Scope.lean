import DialectBinder.Bounds
import DialectBinder.Symbol.NameTable

/-! Nested lexical scopes. -/

namespace DialectBinder

inductive ScopeKind where
  /-- Outside any type: a compilation unit or a namespace. -/
  | namespaceBody
  /-- Inside a type, whose members are those of the container. -/
  | typeBody
  | methodBody
  | block
deriving DecidableEq, Repr

def ScopeKind.name : ScopeKind → String
  | namespaceBody => "Namespace"
  | typeBody => "Type"
  | methodBody => "Method"
  | block => "Block"

structure Scope where
  kind : ScopeKind
  parent : Option ScopeId := none
  /-- The namespace, type or method that owns the scope. -/
  container : Option SymbolId := none
  locals : NameTable := {}
  /-- Containers whose static members are visible here. -/
  imports : List SymbolId := []
deriving DecidableEq, Repr

namespace Scope

def isOutsideType (scope : Scope) : Bool := scope.kind == .namespaceBody

def localsNamed (scope : Scope) (name : String) : List SymbolId := scope.locals.named name

def addImport (scope : Scope) (container : SymbolId) : Scope :=
  if scope.imports.contains container then scope else { scope with imports := scope.imports ++ [container] }

end Scope

structure ScopeArena where
  scopes : Array Scope := #[]

namespace ScopeArena

def size (arena : ScopeArena) : Nat := arena.scopes.size

def get? (arena : ScopeArena) (id : ScopeId) : Option Scope := arena.scopes[id.index]?

def nextId (arena : ScopeArena) : ScopeId := ⟨arena.size⟩

/-- Open a scope, under `nextId`. -/
def add (arena : ScopeArena) (kind : ScopeKind) (parent : Option ScopeId) (container : Option SymbolId) :
    ScopeArena :=
  ⟨arena.scopes.push { kind, parent, container }⟩

/-- Declare a symbol directly in a scope; a scope that does not exist takes none. -/
def declare (arena : ScopeArena) (scope : ScopeId) (name : String) (symbol : SymbolId) : ScopeArena :=
  ⟨arena.scopes.modify scope.index fun found => { found with locals := found.locals.add name symbol }⟩

/-- Make the static members of a container visible in a scope, once. -/
def importStatic (arena : ScopeArena) (scope : ScopeId) (container : SymbolId) : ScopeArena :=
  ⟨arena.scopes.modify scope.index fun found => found.addImport container⟩

/-- The first `length` scopes from `innermost` outward. -/
def chainWithin (arena : ScopeArena) : Nat → ScopeId → List ScopeId
  | 0, _ => []
  | length + 1, innermost =>
      match arena.get? innermost with
      | none => []
      | some scope =>
          innermost :: match scope.parent with
            | some outer => arena.chainWithin length outer
            | none => []

def chain (arena : ScopeArena) (innermost : ScopeId) : List ScopeId := arena.chainWithin maxScopeDepth innermost

/-- The types whose bodies enclose a scope, innermost first. -/
def enclosingTypes (arena : ScopeArena) (innermost : ScopeId) : List SymbolId :=
  (arena.chain innermost).filterMap fun id => do
    let scope ← arena.get? id
    guard (scope.kind == .typeBody)
    scope.container

end ScopeArena

end DialectBinder
