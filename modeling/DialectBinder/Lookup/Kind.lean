/-! The five outcomes of a name lookup and the order in which they displace one another. -/

namespace DialectBinder

inductive LookupKind where
  | empty
  /-- Only symbols that the place of the lookup may not use. -/
  | inaccessible
  /-- Several usable symbols that do not form a method group. -/
  | ambiguous
  /-- Exactly one usable symbol. -/
  | viable
  /-- A method group of several usable symbols. -/
  | multiViable
deriving DecidableEq, Repr

namespace LookupKind

/-- A higher rank displaces a lower one and equal ranks combine. An inner ambiguity outranks an
outer usable symbol, which therefore cannot hide it. -/
def rank : LookupKind → Nat
  | empty => 0
  | inaccessible => 1
  | viable | multiViable => 2
  | ambiguous => 3

def name : LookupKind → String
  | empty => "Empty"
  | inaccessible => "Inaccessible"
  | ambiguous => "Ambiguous"
  | viable => "Viable"
  | multiViable => "MultiViable"

def named? (name : String) : Option LookupKind :=
  [empty, inaccessible, ambiguous, viable, multiViable].find? fun kind => kind.name == name

end LookupKind

end DialectBinder
