import DialectBinder.Identity
import DialectBinder.Lookup.Kind

/-! What makes an operation impossible, as opposed to a finding about the program being compiled. -/

namespace DialectBinder

inductive Fault where
  /-- The end of a span lies beyond the 32-bit offsets. -/
  | spanOverflow
  /-- An expression was given to a second parent. -/
  | adoptedTwice (child : ExprId)
  /-- A parameter was appended to a list that ends in a parameter array. -/
  | parameterAfterVariadic
  /-- A lookup result is empty by kind and not by content, or the other way round. -/
  | inconsistentLookup (kind : LookupKind) (symbols : Nat)
deriving DecidableEq, Repr

def Fault.message : Fault → String
  | .spanOverflow => "attempt to add with overflow"
  | .adoptedTwice child => s!"expression ExprIndex({child.index}) adopted twice"
  | .parameterAfterVariadic => "parameter after variadic tail"
  | .inconsistentLookup kind symbols =>
      s!"lookup result kind {kind.name} inconsistent with {symbols} symbols"

end DialectBinder
