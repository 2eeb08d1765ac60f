import DialectBinder.Annotations
import DialectBinder.Expr.Arena

/-! How a value of one type becomes one of another, and the question for it. -/

namespace DialectBinder

inductive Conversion where
  | noConversion
  | identity
  | implicitNumeric
  | boxing
  | integerToPointer
  | implicitReference
  | userDefined (operator : SymbolId)
deriving DecidableEq, Repr

namespace Conversion

def text : Conversion → String
  | noConversion => "NoConversion"
  | identity => "Identity"
  | implicitNumeric => "ImplicitNumeric"
  | boxing => "Boxing"
  | integerToPointer => "IntegerToPointer"
  | implicitReference => "ImplicitReference"
  | userDefined operator => s!"UserDefined({operator.index})"

/-- The built-in conversion of that text. -/
def builtIn? (text : String) : Option Conversion :=
  [noConversion, identity, implicitNumeric, boxing, integerToPointer, implicitReference].find? fun conversion =>
    conversion.text == text

/-- Whether there is a conversion at all. -/
def isPossible (conversion : Conversion) : Bool := conversion != noConversion

/-- How far a conversion is from leaving the value as it is. -/
def rank : Conversion → Nat
  | identity => 0
  | implicitNumeric | implicitReference => 1
  | integerToPointer => 2
  | boxing => 3
  | userDefined _ => 4
  | noConversion => 255

/-- The user-defined conversion by an operator, if there is one. -/
def ofOperator? : Option SymbolId → Conversion
  | some operator => userDefined operator
  | none => noConversion

end Conversion

/-- Which conversion takes a type to another; the source may be a particular expression. -/
structure ConversionQuery where
  expr : Option ExprId := none
  source : TypeId
  target : TypeId
deriving DecidableEq, Repr

/-- The question for an expression with its static type. -/
def ConversionQuery.ofExpr (exprs : ExprArena) (expr : ExprId) (target : TypeId) : ConversionQuery :=
  ⟨some expr, exprs.typeOf expr, target⟩

/-- A conversion and the marks that carrying it out leaves on the expression. -/
structure ConversionOutcome where
  conversion : Conversion
  annotations : Annotations := {}
deriving DecidableEq, Repr

end DialectBinder
