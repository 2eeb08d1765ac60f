import DialectBinder.Fault
import DialectBinder.Symbol.Arena

/-! What a lookup found, and how the finding of an outer scope joins that of the inner ones. -/

namespace DialectBinder

/-- What a diagnostic about a lookup would name. -/
inductive LookupProblem where
  | ambiguous (first second : SymbolId)
  | inaccessible (symbol : SymbolId)
deriving DecidableEq, Repr

structure LookupResult where
  kind : LookupKind := .empty
  symbols : List SymbolId := []
  problem : Option LookupProblem := none
deriving DecidableEq, Repr

namespace LookupResult

def empty : LookupResult := {}

/-- The result of usable symbols: one is viable, several are a method group or ambiguous. -/
def ofViable (arena : SymbolArena) (symbols : List SymbolId) : LookupResult :=
  match symbols with
  | [] => empty
  | [symbol] => ⟨.viable, [symbol], none⟩
  | first :: second :: rest =>
      if (first :: second :: rest).all arena.isMethod then ⟨.multiViable, first :: second :: rest, none⟩
      else ⟨.ambiguous, first :: second :: rest, some (.ambiguous first second)⟩

/-- The result of one scope's usable and unusable symbols. Unusable ones count only on their own. -/
def ofCandidates (arena : SymbolArena) (viable inaccessible : List SymbolId) : LookupResult :=
  match viable, inaccessible with
  | [], [] => empty
  | [], first :: rest => ⟨.inaccessible, first :: rest, some (.inaccessible first)⟩
  | _, _ => ofViable arena viable

def isEmpty (result : LookupResult) : Bool := result.kind == .empty

/-- Whether the result holds usable symbols without ambiguity, so that no outer scope is asked. -/
def isSettled (result : LookupResult) : Bool := result.kind == .viable || result.kind == .multiViable

def contains (result : LookupResult) (symbol : SymbolId) : Bool := result.symbols.contains symbol

/-- The symbols of `more` that are not there yet, appended in order. -/
def union (symbols more : List SymbolId) : List SymbolId :=
  more.foldl (fun held symbol => if held.contains symbol then held else held ++ [symbol]) symbols

/-- Join the result of an outer scope: a higher rank displaces this result, an equal one adds its
symbols. -/
def merge (arena : SymbolArena) (result outer : LookupResult) : LookupResult :=
  if result.kind.rank < outer.kind.rank then outer
  else if outer.kind.rank = result.kind.rank ∧ !outer.isEmpty then
    let symbols := union result.symbols outer.symbols
    if result.isSettled then ofViable arena symbols else { result with symbols }
  else result

/-- A result is empty by kind exactly if it holds no symbols. -/
def validate (result : LookupResult) : Except Fault Unit :=
  if result.isEmpty == result.symbols.isEmpty then .ok ()
  else .error (.inconsistentLookup result.kind result.symbols.length)

end LookupResult

end DialectBinder
