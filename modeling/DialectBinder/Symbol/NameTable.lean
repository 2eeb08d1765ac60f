import DialectBinder.Identity
import DialectBinder.Text.Case

/-! Symbols grouped by name. Names that differ in case alone share a group; groups stand in the
order of their first entry, and the entries of a group in the order they were added. -/

namespace DialectBinder

structure NameTable where
  groups : List (String × List SymbolId) := []
deriving DecidableEq, Repr

namespace NameTable

/-- The groups after `symbol` has joined the group of a folded name. -/
def join (key : String) (symbol : SymbolId) : List (String × List SymbolId) → List (String × List SymbolId)
  | [] => [(key, [symbol])]
  | (name, symbols) :: rest =>
      if name == key then (name, symbols ++ [symbol]) :: rest else (name, symbols) :: join key symbol rest

def add (table : NameTable) (name : String) (symbol : SymbolId) : NameTable :=
  ⟨join (Text.fold name) symbol table.groups⟩

def named (table : NameTable) (name : String) : List SymbolId :=
  (table.groups.lookup (Text.fold name)).getD []

def all (table : NameTable) : List SymbolId := table.groups.flatMap Prod.snd

end NameTable

end DialectBinder
