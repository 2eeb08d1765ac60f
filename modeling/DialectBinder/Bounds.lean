/-! How far walks along links go. A link may lead in circles, and a walk that reaches its bound gives
a cautious answer. -/

namespace DialectBinder

/-- Base links followed from a type. -/
def maxBaseDepth : Nat := 128

/-- Scopes visited by one lookup. -/
def maxScopeDepth : Nat := 1024

/-- Steps through conversions, up to an enclosing node or down to an operand. -/
def maxConversionSteps : Nat := 64

/-- Nesting of operators and conversions that operand widening looks into. -/
def maxOperandDepth : Nat := 256

end DialectBinder
