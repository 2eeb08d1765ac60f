import DialectBinder.Call.Member
import DialectBinder.Expr.Arena

/-! Arguments of a call. -/

namespace DialectBinder

structure Argument where
  type : TypeId
  /-- The argument as a bound expression. -/
  expr : Option ExprId := none
  passing : Passing := .byValue
  /-- Storage whose address can be passed. -/
  addressable : Bool := false
deriving DecidableEq, Repr

def Argument.ofExpr (exprs : ExprArena) (expr : ExprId) : Argument :=
  { type := exprs.typeOf expr, expr := some expr, addressable := exprs.isAddressable expr }

end DialectBinder
