import DialectBinder.Conversion.Standard
import DialectBinder.Options.Basic

/-! What the classification of conversions reads, with the two answers that stand beside the rule
cascade: boxing, and the conversion of a lambda. -/

namespace DialectBinder

structure Classifier where
  types : TypeTable
  exprs : ExprArena
  options : Options
  standard : StandardRules := .core

namespace Classifier

/-- Legacy values that become references only through their operators. -/
def isLegacyScalar (types : TypeTable) (id : TypeId) : Bool :=
  types.isLegacySymbol id || types.isPsz id || types.isLegacyFloat id || types.isCurrency id || types.isLegacyDate id

/-- Whether a type boxes into another. An interface always boxes into `USUAL`. In the legacy dialects
pointers and dates take everything, while strings, arrays, code blocks and the format provider
take nothing. -/
def hasBoxing (classifier : Classifier) (source target : TypeId) : Bool :=
  let types := classifier.types
  if types.isInterface source && types.isUsual target then true
  else if !classifier.options.legacyRules then classifier.standard.boxes types source target
  else if types.isPointer target || types.isLegacyDate target then true
  else if types.isString target || types.isArray target || types.isLegacyArrayLike target ||
      types.isCodeblockLike target || target == .formatProvider then false
  else if types.isReferenceType target then
    !isLegacyScalar types source && classifier.standard.boxes types source target
  else classifier.standard.boxes types source target

/-- The conversion of a lambda. A delegate takes its own number of parameters; the legacy dialects
let an untyped lambda leave some out, and turn lambdas into code blocks, `USUAL` and `OBJECT`. -/
def lambdaConversion (classifier : Classifier) (lambda : ExprId) (target : TypeId) : Conversion :=
  let types := classifier.types
  let legacy := classifier.options.legacyRules
  match classifier.exprs.kind? lambda with
  | some (.lambda parameters typed) =>
      match types.delegateParameters? target with
      | some expected =>
          if parameters == expected || (legacy && !typed && parameters < expected) then .implicitReference
          else .noConversion
      | none =>
          if legacy && types.isUsual target then .boxing
          else if legacy && (types.isObject target || types.isCodeblockLike target) then .implicitReference
          else .noConversion
  | _ => .noConversion

end Classifier

end DialectBinder
