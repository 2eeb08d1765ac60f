import DialectBinder.Symbol.Basic

/-! Which symbols a lookup asks for. -/

namespace DialectBinder

structure LookupFilter where
  mustBeInvocable : Bool := false
  mustBeInstance : Bool := false
  mustNotBeInstance : Bool := false
  mustNotBeMethod : Bool := false
  namespacesOrTypesOnly : Bool := false
  /-- Report what was found to be wrong; no effect on what is found. -/
  diagnose : Bool := false
deriving DecidableEq, Repr

namespace LookupFilter

/-- The filter of a bit set; other bits mean nothing. -/
def ofBits (bits : Nat) : LookupFilter where
  mustBeInvocable := bits.testBit 0
  mustBeInstance := bits.testBit 1
  mustNotBeInstance := bits.testBit 2
  mustNotBeMethod := bits.testBit 3
  namespacesOrTypesOnly := bits.testBit 4
  diagnose := bits.testBit 5

/-- Whether a symbol has the asked arity. A generic method also answers a request without type
arguments, which are then inferred. -/
def admitsArity (arity : Nat) (symbol : Symbol) : Bool :=
  symbol.arity == arity || (symbol.isMethod && arity == 0)

def admits (filter : LookupFilter) (arity : Nat) (symbol : Symbol) : Bool :=
  (!filter.namespacesOrTypesOnly || symbol.isNamespaceOrType) &&
  (!filter.mustBeInvocable || symbol.isInvocable) &&
  (!filter.mustBeInstance || symbol.isInstanceMember) &&
  (!filter.mustNotBeInstance || !symbol.isInstanceMember) &&
  (!filter.mustNotBeMethod || !symbol.isMethod) &&
  admitsArity arity symbol

end LookupFilter

end DialectBinder
