import DialectBinder.Assembly
import DialectBinder.Call.Argument
import DialectBinder.Lookup.Search
import DialectBinder.Types.Predicate

/-! Which of two candidates is better when their conversions do not tell. The rules are asked in
order, and the first that prefers a side decides. Each one compares a property of the two
candidates, so that exchanging them exchanges the answer. -/

namespace DialectBinder

inductive Side where
  | left
  | right
deriving DecidableEq, Repr

namespace Side

def name : Side → String
  | left => "Left"
  | right => "Right"

def swap : Side → Side
  | left => right
  | right => left

/-- The side on which alone something holds. -/
def prefer (onLeft onRight : Bool) : Option Side :=
  match onLeft, onRight with
  | true, false => some left
  | false, true => some right
  | _, _ => none

end Side

inductive TieRule where
  | origin
  | parameterShape
  | functionsContainer
  | binaryOperator
  | literalOperand
  | usualOperand
deriving DecidableEq, Repr

namespace TieRule

/-- The rules in the order in which they are asked. -/
def all : List TieRule :=
  [origin, parameterShape, functionsContainer, binaryOperator, literalOperand, usualOperand]

def name : TieRule → String
  | origin => "origin"
  | parameterShape => "parameter-shape"
  | functionsContainer => "functions-container"
  | binaryOperator => "binary-operator"
  | literalOperand => "literal-operand"
  | usualOperand => "usual-operand"

/-- Whether the programmer should hear of a decision by this rule. -/
def isAmbiguous (rule : TieRule) : Bool := rule == functionsContainer

end TieRule

/-- A side that was preferred, and by which rule. -/
structure TieDecision where
  winner : Side
  rule : TieRule
deriving DecidableEq, Repr

/-- The tables that the rules read. -/
structure TieBreaker where
  types : TypeTable
  exprs : ExprArena
  options : Options
  assemblies : AssemblyTable

namespace TieBreaker

/-- Members of a legacy runtime lose; otherwise those of the module being compiled win. -/
def origin (breaker : TieBreaker) (left right : Member) : Option Side :=
  let legacyLeft := breaker.assemblies.isLegacyRuntime left.assembly
  let legacyRight := breaker.assemblies.isLegacyRuntime right.assembly
  Side.prefer (!legacyLeft) (!legacyRight) <|>
    if legacyLeft then none else Side.prefer left.assembly.isCurrent right.assembly.isCurrent

/-- Neither `USUAL` nor an array. -/
def isSpecific (breaker : TieBreaker) (type : TypeId) : Bool :=
  !breaker.types.isUsual type && !breaker.types.isArray type

/-- A specific parameter beats `USUAL`, unless the argument is `USUAL` itself. -/
def overUsual (breaker : TieBreaker) (left right argument : TypeId) : Option Side :=
  if !breaker.types.isUsual argument && left != right then
    Side.prefer (breaker.isSpecific left && breaker.types.isUsual right)
      (breaker.types.isUsual left && breaker.isSpecific right)
  else none

/-- An array of objects beats an object. -/
def overObject (breaker : TieBreaker) (left right : TypeId) : Option Side :=
  Side.prefer (breaker.types.isArrayOf left .object && right == .object)
    (left == .object && breaker.types.isArrayOf right .object)

/-- What has an address goes to a parameter that takes it. -/
def byAddress (left right : Parameter) (argument : Argument) : Option Side :=
  if argument.addressable && left.passing != right.passing then
    Side.prefer (left.passing == .byRef) (right.passing == .byRef)
  else none

/-- An exact type beats others, and for an enumeration the type it counts in comes next. -/
def exactType (breaker : TieBreaker) (left right argument : TypeId) : Option Side :=
  Side.prefer (left == argument) (right == argument) <|>
    match breaker.types.underlying? argument with
    | some underlying => Side.prefer (left == underlying) (right == underlying)
    | none => none

/-- A legacy float goes to a `REAL8`. -/
def floatToReal (breaker : TieBreaker) (left right argument : TypeId) : Option Side :=
  if breaker.types.isLegacyFloat argument then Side.prefer (left == .real8) (right == .real8) else none

/-- What one position of the parameter lists prefers. -/
def shapeAt (breaker : TieBreaker) (left right : Parameter) (argument : Argument) : Option Side :=
  breaker.overUsual left.type right.type argument.type <|> breaker.overObject left.type right.type <|>
    byAddress left right argument <|> breaker.exactType left.type right.type argument.type <|>
    breaker.floatToReal left.type right.type argument.type

/-- The first position that prefers a side, in lists of one length. -/
def parameterShape (breaker : TieBreaker) (left right : Member) (arguments : List Argument) : Option Side :=
  if left.parameters.length == right.parameters.length then
    ((left.parameters.zip right.parameters).zip arguments).findSome? fun ((leftParameter, rightParameter), argument) =>
      breaker.shapeAt leftParameter rightParameter argument
  else none

/-- Of functions in containers of one name, those of the assembly that is referenced earlier. -/
def functionsContainer (breaker : TieBreaker) (left right : Member) : Option Side :=
  if left.assembly != right.assembly && isFunctionsContainer left.container &&
      Text.sameIgnoringCase left.container right.container then
    Side.prefer (breaker.assemblies.referencedBefore left.assembly right.assembly)
      (breaker.assemblies.referencedBefore right.assembly left.assembly)
  else none

/-- `REAL8` beats `REAL4` where that is all the difference there is. -/
def doubleOverSingle (left right : TypeId × TypeId) : Option Side :=
  let wider := fun (leftType rightType : TypeId) =>
    Side.prefer (leftType == .real8 && rightType == .real4) (leftType == .real4 && rightType == .real8)
  match left.1 == right.1, left.2 == right.2 with
  | false, true => wider left.1 right.1
  | true, false => wider left.2 right.2
  | _, _ => none

/-- With a legacy float among the arguments, a `REAL8` among the operands. -/
def realForFloat (breaker : TieBreaker) (left right arguments : TypeId × TypeId) : Option Side :=
  let hasReal := fun (operands : TypeId × TypeId) => operands.1 == .real8 || operands.2 == .real8
  if breaker.types.isLegacyFloat arguments.1 || breaker.types.isLegacyFloat arguments.2 then
    Side.prefer (hasReal left) (hasReal right)
  else none

/-- Two enumerations beat fewer. -/
def bothEnums (breaker : TieBreaker) (left right : TypeId × TypeId) : Option Side :=
  let enums := fun (operands : TypeId × TypeId) => breaker.types.isEnum operands.1 && breaker.types.isEnum operands.2
  Side.prefer (enums left) (enums right)

/-- Between integers that convert whatever their sign: the width and sign of the arguments, then
their sign alone. -/
def sameSign (breaker : TieBreaker) (left right arguments : TypeId × TypeId) : Option Side :=
  let types := breaker.types
  let integral := fun (operands : TypeId × TypeId) => types.isIntegral operands.1 && types.isIntegral operands.2
  let sign := fun (operand argument : TypeId) => types.isSignedIntegral operand == types.isSignedIntegral argument
  let shape := fun (operand argument : TypeId) =>
    sign operand argument && types.sizeInBytes operand == types.sizeInBytes argument
  if breaker.options.signedUnsigned && integral left && integral right && integral arguments then
    Side.prefer (shape left.1 arguments.1) (shape right.1 arguments.1) <|>
      Side.prefer (shape left.2 arguments.2) (shape right.2 arguments.2) <|>
      Side.prefer (sign left.1 arguments.1) (sign right.1 arguments.1) <|>
      Side.prefer (sign left.2 arguments.2) (sign right.2 arguments.2)
  else none

/-- Two operators applied to two arguments. -/
def operatorPair? (left right : Member) (arguments : List Argument) :
    Option ((TypeId × TypeId) × (TypeId × TypeId) × Argument × Argument) :=
  match left.operands?, right.operands?, arguments with
  | some leftOperands, some rightOperands, [first, second] => some (leftOperands, rightOperands, first, second)
  | _, _, _ => none

def binaryOperator (breaker : TieBreaker) (left right : Member) (arguments : List Argument) : Option Side :=
  match operatorPair? left right arguments with
  | some (leftOperands, rightOperands, first, second) =>
      doubleOverSingle leftOperands rightOperands <|>
        breaker.realForFloat leftOperands rightOperands (first.type, second.type) <|>
        breaker.bothEnums leftOperands rightOperands <|>
        breaker.sameSign leftOperands rightOperands (first.type, second.type)
  | none => none

/-- Whether the value of a literal, where it is known, fits the sign of an integral type. -/
def literalFits (breaker : TieBreaker) (literal : Argument) (type : TypeId) : Bool :=
  match (literal.expr.bind breaker.exprs.constant?).bind Constant.integral? with
  | some value =>
      if breaker.types.isIntegral type && !breaker.types.isSignedIntegral type then 0 ≤ value else true
  | none => true

/-- A literal is taken as one of the other operand's type where only one side does so. -/
def literalOperand (breaker : TieBreaker) (left right : Member) (arguments : List Argument) : Option Side :=
  match operatorPair? left right arguments with
  | some (leftOperands, rightOperands, first, second) =>
      match first.expr.any breaker.exprs.isLiteral, second.expr.any breaker.exprs.isLiteral with
      | true, false =>
          if breaker.literalFits first second.type then
            Side.prefer (leftOperands.1 == second.type) (rightOperands.1 == second.type)
          else none
      | false, true =>
          if breaker.literalFits second first.type then
            Side.prefer (leftOperands.2 == first.type) (rightOperands.2 == first.type)
          else none
      | _, _ => none
  | none => none

/-- Where no argument is `USUAL`, an operand that is not either. -/
def usualOperand (breaker : TieBreaker) (left right : Member) (arguments : List Argument) : Option Side :=
  match operatorPair? left right arguments with
  | some (leftOperands, rightOperands, first, second) =>
      let avoids := fun (type : TypeId) => !breaker.types.isUsual type
      if avoids first.type && avoids second.type then
        Side.prefer (avoids leftOperands.1) (avoids rightOperands.1) <|>
          Side.prefer (avoids leftOperands.2) (avoids rightOperands.2)
      else none
  | none => none

/-- What a rule says about two candidates. -/
def applyRule? (breaker : TieBreaker) (left right : Member) (arguments : List Argument) : TieRule → Option Side
  | .origin => breaker.origin left right
  | .parameterShape => breaker.parameterShape left right arguments
  | .functionsContainer => breaker.functionsContainer left right
  | .binaryOperator => breaker.binaryOperator left right arguments
  | .literalOperand => breaker.literalOperand left right arguments
  | .usualOperand => breaker.usualOperand left right arguments

/-- The better of two candidates, if a rule prefers one. -/
def pickBetter? (breaker : TieBreaker) (left right : Member) (arguments : List Argument) : Option TieDecision :=
  TieRule.all.findSome? fun rule => (breaker.applyRule? left right arguments rule).map fun winner => ⟨winner, rule⟩

end TieBreaker

end DialectBinder
