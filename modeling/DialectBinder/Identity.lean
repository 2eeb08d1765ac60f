/-! Identities of what a compilation unit holds. An identity is a position in its table and may
name nothing there; every table says what such an identity answers. -/

namespace DialectBinder

/-- A declared symbol. -/
structure SymbolId where
  index : Nat
deriving DecidableEq, Repr

/-- The identity reserved for "no symbol". -/
def SymbolId.absent : SymbolId := ⟨4294967295⟩

/-- A lexical scope. -/
structure ScopeId where
  index : Nat
deriving DecidableEq, Repr

/-- A registered type. -/
structure TypeId where
  index : Nat
deriving DecidableEq, Repr

/-- A bound expression. -/
structure ExprId where
  index : Nat
deriving DecidableEq, Repr

/-- The module being compiled or one of its references, numbered in reference order. -/
structure AssemblyId where
  index : Nat
deriving DecidableEq, Repr

namespace AssemblyId

/-- The module being compiled. -/
def current : AssemblyId := ⟨0⟩

def isCurrent (assembly : AssemblyId) : Bool := assembly == current

end AssemblyId

end DialectBinder
