import DialectBinder.Bounds
import DialectBinder.Symbol.Basic

/-! All symbols of a compilation. Links between symbols may lead nowhere or in circles; walks along
base types take a bounded number of steps. -/

namespace DialectBinder

structure SymbolArena where
  symbols : Array Symbol := #[]

namespace SymbolArena

def size (arena : SymbolArena) : Nat := arena.symbols.size

def get? (arena : SymbolArena) (id : SymbolId) : Option Symbol := arena.symbols[id.index]?

/-- The identity that the next symbol will get. -/
def nextId (arena : SymbolArena) : SymbolId := ⟨arena.size⟩

/-- Add a symbol as it is, under `nextId`. -/
def alloc (arena : SymbolArena) (symbol : Symbol) : SymbolArena := ⟨arena.symbols.push symbol⟩

/-- Add a symbol to a container, under `nextId`. The container is looked up when the symbol is
already there, so it may be the symbol itself; a container that does not exist is only recorded. -/
def declareMember (arena : SymbolArena) (container : SymbolId) (symbol : Symbol) : SymbolArena :=
  let added := arena.alloc { symbol with parent := some container }
  ⟨added.symbols.modify container.index fun holder =>
    { holder with members := holder.members.add symbol.name arena.nextId }⟩

/-- Whether the symbol exists and satisfies the test. -/
def satisfies (arena : SymbolArena) (test : Symbol → Bool) (id : SymbolId) : Bool :=
  (arena.get? id).any test

def isMethod (arena : SymbolArena) : SymbolId → Bool := arena.satisfies (·.isMethod)

def isType (arena : SymbolArena) : SymbolId → Bool := arena.satisfies (·.isType)

def isStaticMethod (arena : SymbolArena) : SymbolId → Bool := arena.satisfies (·.isStaticMethod)

def name (arena : SymbolArena) (id : SymbolId) : String :=
  match arena.get? id with
  | some symbol => symbol.name
  | none => "<unknown>"

/-- The declaring container, if it exists. -/
def container? (arena : SymbolArena) (id : SymbolId) : Option Symbol := do
  let symbol ← arena.get? id
  let parent ← symbol.parent
  arena.get? parent

def containerName? (arena : SymbolArena) (id : SymbolId) : Option String :=
  (arena.container? id).map (·.name)

/-- The name after that of its container, unless the container is a namespace. -/
def qualifiedName (arena : SymbolArena) (id : SymbolId) : String :=
  match arena.container? id with
  | some container =>
      if container.isNamespace then arena.name id else s!"{container.name}.{arena.name id}"
  | none => arena.name id

/-- Whether `base` is the symbol itself or one of its first `links` base types. The symbols on the
way have to exist, the last one does not. -/
def derivesWithin (arena : SymbolArena) (base : SymbolId) : Nat → SymbolId → Bool
  | 0, id => id == base
  | links + 1, id =>
      id == base || ((arena.get? id).bind (·.base)).any (arena.derivesWithin base links)

def derivesFrom (arena : SymbolArena) (derived base : SymbolId) : Bool :=
  arena.derivesWithin base maxBaseDepth derived

end SymbolArena

end DialectBinder
