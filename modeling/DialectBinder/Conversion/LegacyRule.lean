import DialectBinder.Conversion.Classifier
import DialectBinder.Expr.Operand
import DialectBinder.Types.Category

/-! The implicit conversions that the legacy dialects add, as an ordered list of rules. A rule decides
or passes; to decide against a conversion keeps the later rules and the core language from
allowing it. -/

namespace DialectBinder

inductive LegacyRule where
  | nullToUsual
  | charAliasing
  | nativeInt
  | pointerToObject
  | crossWidthNumeric
  | binaryWidening
  | legacyCast
  | usualSource
  | objectBridging
  | numericFallback
deriving DecidableEq, Repr

namespace LegacyRule

/-- The rules in the order in which they are asked. -/
def all : List LegacyRule :=
  [nullToUsual, charAliasing, nativeInt, pointerToObject, crossWidthNumeric, binaryWidening, legacyCast, usualSource,
    objectBridging, numericFallback]

def name : LegacyRule → String
  | nullToUsual => "null-to-usual"
  | charAliasing => "char-aliasing"
  | nativeInt => "native-int"
  | pointerToObject => "pointer-to-object"
  | crossWidthNumeric => "cross-width-numeric"
  | binaryWidening => "binary-widening"
  | legacyCast => "legacy-cast"
  | usualSource => "usual-source"
  | objectBridging => "object-bridging"
  | numericFallback => "numeric-fallback"

end LegacyRule

namespace Classifier

def sourceCategory (classifier : Classifier) (query : ConversionQuery) : TypeCategory :=
  classifier.types.category query.source

def targetCategory (classifier : Classifier) (query : ConversionQuery) : TypeCategory :=
  classifier.types.category query.target

/-- Nothing becomes `USUAL` through the operator that takes an object. -/
def nullToUsual? (classifier : Classifier) (query : ConversionQuery) : Option ConversionOutcome :=
  if classifier.targetCategory query == .usual &&
      (classifier.sourceCategory query == .null || query.expr.any classifier.exprs.isNullLiteral) then do
    let info ← classifier.types.get? query.target
    let operator ← info.operators.find? fun operator =>
      operator.implicit && operator.parameter == .object && operator.result == query.target
    return { conversion := .userDefined operator.symbol }
  else none

/-- Characters are words, and numbers of one byte where arithmetic conversions are on. -/
def charAliasing? (classifier : Classifier) (query : ConversionQuery) : Option ConversionOutcome :=
  match classifier.sourceCategory query, classifier.targetCategory query with
  | .char, .integral signed size | .integral signed size, .char =>
      if !signed && size == 2 then some { conversion := .identity }
      else if size == 1 && classifier.options.arithmetic then some { conversion := .implicitNumeric }
      else none
  | _, _ => none

/-- Native integers are other integers, pointers and raw structures. -/
def nativeInt? (classifier : Classifier) (query : ConversionQuery) : Option ConversionOutcome :=
  match classifier.sourceCategory query, classifier.targetCategory query with
  | .nativeInteger _, .pointer _ => some { conversion := .integerToPointer }
  | .nativeInteger _, .structType true => some { conversion := .identity }
  | .nativeInteger _, .integral _ _ | .nativeInteger _, .nativeInteger _ => some { conversion := .identity }
  | .nativeInteger _, .object => some { conversion := .boxing, annotations := { specialUnbox := true } }
  | .structType true, .nativeInteger _ | .pointer _, .nativeInteger _ => some { conversion := .identity }
  | .integral _ _, .nativeInteger _ => some { conversion := .identity }
  | _, _ => none

def pointerToObject? (classifier : Classifier) (query : ConversionQuery) : Option ConversionOutcome :=
  match classifier.sourceCategory query, classifier.targetCategory query with
  | .pointer _, .object | .psz, .object =>
      if classifier.options.pointerMagic then some { conversion := .boxing } else none
  | _, _ => none

/-- The mark, unless advice on the expression is withheld. -/
def advice (classifier : Classifier) (query : ConversionQuery) (flags : Annotations) : Annotations :=
  if query.expr.any classifier.exprs.suppressesWarnings then {} else flags

/-- Numbers become one another where the switches allow it: integers of one width under either
switch, all others under that for arithmetic conversions. -/
def crossWidthNumeric? (classifier : Classifier) (query : ConversionQuery) : Option ConversionOutcome :=
  let source := classifier.sourceCategory query
  let target := classifier.targetCategory query
  let sourceSize := classifier.types.sizeInBytes query.source
  let targetSize := classifier.types.sizeInBytes query.target
  if !classifier.options.anyNumericCompatibility then none
  else if (source == .legacyFloat || source == .currency) && target.isNumeric then
    if classifier.options.arithmetic then some { conversion := .boxing } else none
  else if !source.isNumeric || !target.isNumeric then none
  else if source.isIntegral && target.isIntegral && sourceSize == targetSize then
    some { conversion := .identity, annotations := classifier.advice query { signChange := true } }
  else if !classifier.options.arithmetic then none
  else if targetSize < sourceSize || (!source.isIntegral && target.isIntegral) then
    some { conversion := .implicitNumeric, annotations := classifier.advice query { narrowing := true } }
  else some { conversion := .implicitNumeric }

/-- Whether an operand of the first type fits the second, both being integers. -/
def operandFits (classifier : Classifier) (operand target : TypeId) : Bool :=
  let types := classifier.types
  operand == target || types.sizeInBytes operand < types.sizeInBytes target ||
    (types.sizeInBytes operand == types.sizeInBytes target &&
      (types.isSignedIntegral operand == types.isSignedIntegral target || classifier.options.signedUnsigned))

/-- Whether the expression applies an arithmetic or bitwise operator to two operands. -/
def isArithmetic (classifier : Classifier) (expr : ExprId) : Bool :=
  match classifier.exprs.kind? expr with
  | some (.binary op _ _) => op.isArithmeticOrBitwise
  | _ => false

/-- An arithmetic expression becomes another integer if, and only if, its widest operand fits. -/
def binaryWidening? (classifier : Classifier) (query : ConversionQuery) : Option ConversionOutcome :=
  match query.expr with
  | none => none
  | some expr =>
      if classifier.isArithmetic expr && (classifier.sourceCategory query).isIntegral &&
          (classifier.targetCategory query).isIntegral then
        let largest := largestOperand classifier.types classifier.exprs expr
        if !classifier.types.isIntegral largest then none
        else if classifier.operandFits largest query.target then some { conversion := .implicitNumeric }
        else some { conversion := .noConversion }
      else none

/-- What the cast syntax makes of a source category; the platform's pointer size is that of the options. -/
def castConversion? (classifier : Classifier) (query : ConversionQuery) : Option Conversion :=
  let source := classifier.sourceCategory query
  let target := classifier.targetCategory query
  let pointerSize := classifier.options.pointerSize.toNat
  if target == .boolean && source.isIntegral then some .identity
  else if target.isIntegral then
    if source == .boolean then some .identity
    else if source.isNumeric then some .implicitNumeric
    else if classifier.types.isVoidPointer query.source && classifier.types.sizeInBytes query.target == pointerSize then
      some .identity
    else none
  else
    match target, source with
    | .pointer _, .integral _ size => if size == pointerSize then some .identity else some .integerToPointer
    | .pointer _, .pointer _ | .pointer _, .psz => some .identity
    | .psz, _ => some .identity
    | _, _ => none

/-- The cast syntax reinterprets bits and so allows what a conversion of values does not. -/
def legacyCast? (classifier : Classifier) (query : ConversionQuery) : Option ConversionOutcome :=
  if query.expr.any classifier.exprs.isLegacyCastOperand && classifier.sourceCategory query != .usual &&
      classifier.types.isLegacyCastable query.source && classifier.types.isLegacyCastable query.target then
    (classifier.castConversion? query).map fun conversion => { conversion }
  else none

def usualSource? (classifier : Classifier) (query : ConversionQuery) : Option ConversionOutcome :=
  match classifier.sourceCategory query, classifier.targetCategory query with
  | .usual, .decimal => some { conversion := .boxing, annotations := { specialHandling := true } }
  | .usual, .object | .usual, .pointer _ => some { conversion := .boxing }
  | .usual, .classType | .usual, .interfaceType | .usual, .array _ | .usual, .delegate _ =>
      if query.target == .usualArray || query.target == .formatProvider then none else some { conversion := .boxing }
  | _, _ => none

/-- Objects become other references, pointers and back, and references go down the hierarchy. -/
def objectBridging? (classifier : Classifier) (query : ConversionQuery) : Option ConversionOutcome :=
  let types := classifier.types
  let options := classifier.options
  let source := classifier.sourceCategory query
  let target := classifier.targetCategory query
  if source == .object && target == .usual && query.expr.any classifier.exprs.isLegacyCastOperand then
    some { conversion := .boxing }
  else if (options.lateBinding || options.implicitCast) && source == .object && target != .object &&
      types.isReferenceType query.target then
    some { conversion := .implicitReference }
  else if !options.implicitCast then none
  else
    match source, target with
    | .object, .pointer _ | .pointer _, .object => some { conversion := .boxing }
    | .interfaceType, .classType => some { conversion := .implicitReference }
    | .classType, .classType =>
        if types.derivesFrom query.target query.source then some { conversion := .implicitReference } else none
    | _, _ => none

/-- Integers widen, and the branches of a conditional expression are not looked at closely. -/
def numericFallback? (classifier : Classifier) (query : ConversionQuery) : Option ConversionOutcome :=
  let types := classifier.types
  if (classifier.sourceCategory query).isIntegral && (classifier.targetCategory query).isIntegral &&
      (query.expr.any classifier.exprs.isConditional ||
        types.sizeInBytes query.source < types.sizeInBytes query.target) then
    some { conversion := .implicitNumeric }
  else none

/-- What a rule says about a query. -/
def applyRule? (classifier : Classifier) (query : ConversionQuery) : LegacyRule → Option ConversionOutcome
  | .nullToUsual => classifier.nullToUsual? query
  | .charAliasing => classifier.charAliasing? query
  | .nativeInt => classifier.nativeInt? query
  | .pointerToObject => classifier.pointerToObject? query
  | .crossWidthNumeric => classifier.crossWidthNumeric? query
  | .binaryWidening => classifier.binaryWidening? query
  | .legacyCast => classifier.legacyCast? query
  | .usualSource => classifier.usualSource? query
  | .objectBridging => classifier.objectBridging? query
  | .numericFallback => classifier.numericFallback? query

end Classifier

end DialectBinder
