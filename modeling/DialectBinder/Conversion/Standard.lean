import DialectBinder.Conversion.Basic
import DialectBinder.Types.Hierarchy

/-! The conversions of the core language, which know of the legacy runtime only what the type table
says about its types. -/

namespace DialectBinder

namespace TypeTable

/-- Whether the core language widens one number to another. -/
def isImplicitNumeric (types : TypeTable) (source target : TypeId) : Bool :=
  match types.primitive? source, types.primitive? target with
  | some narrow, some wide => narrow.widensTo wide
  | _, _ => false

/-- Whether a reference of one type is one of another. Arrays are compared by their element types,
over and over if these are arrays again; nothing if `depth` comparisons do not decide it. -/
def referenceWithin? (types : TypeTable) : Nat → TypeId → TypeId → Option Bool
  | 0, _, _ => none
  | depth + 1, source, target =>
      if !types.isReferenceType source then some false
      else if types.isObject target then some true
      else if types.isInterface target then some (types.implementsInterface source target)
      else if types.derivesFrom source target then some true
      else
        match types.element? source, types.element? target with
        | some sourceElement, some targetElement =>
            if sourceElement == targetElement then some true
            else types.referenceWithin? depth sourceElement targetElement
        | _, _ => some false

/-- Whether a reference of one type is one of another. There are no more pairs of types than
comparisons here, so that arrays which these do not decide come up again and again. Such arrays have
no answer; `false` stands in for it. -/
def isImplicitReference (types : TypeTable) (source target : TypeId) : Bool :=
  (types.referenceWithin? (types.size * types.size + 1) source target).getD false

/-- Whether a value is boxed when it becomes an object or an interface that it implements. -/
def boxes (types : TypeTable) (source target : TypeId) : Bool :=
  types.isValueType source &&
    (types.isObject target || (types.isInterface target && types.implementsInterface source target))

/-- How far a parameter of an operator is from a type: equal, wider, a reference of it, an
object. -/
def parameterDistance? (types : TypeTable) (source parameter : TypeId) : Option Nat :=
  if source == parameter then some 0
  else if types.isImplicitNumeric source parameter then some 1
  else if types.isImplicitReference source parameter then some 2
  else if types.isValueType source && types.isObject parameter then some 3
  else none

/-- The operators that the source and then the target declare. -/
def declaredOperators (types : TypeTable) (source target : TypeId) : List ConversionOperator :=
  [source, target].flatMap fun owner =>
    match types.get? owner with
    | some info => info.operators
    | none => []

/-- The first entry of the least key. -/
def firstLeast {Content : Type} : List (Nat × Content) → Option (Nat × Content)
  | [] => none
  | entry :: rest =>
      match firstLeast rest with
      | some least => if least.1 < entry.1 then some least else some entry
      | none => some entry

/-- The user-defined conversion whose parameter is closest to the source, the first of several. -/
def closestOperator? (types : TypeTable) (source target : TypeId) (implicitOnly : Bool) :
    Option SymbolId :=
  let fitting := (types.declaredOperators source target).filter fun operator =>
    operator.result == target && (operator.implicit || !implicitOnly)
  (firstLeast (fitting.filterMap fun operator =>
    (types.parameterDistance? source operator.parameter).map (·, operator.symbol))).map Prod.snd

/-- Numbers, characters and enumerations, which a cast converts into one another. -/
def isNumericLike (types : TypeTable) (id : TypeId) : Bool :=
  types.isEnum id || types.isChar id || types.isNumeric id

def standardImplicit (types : TypeTable) (source target : TypeId) : Conversion :=
  if source == target then .identity
  else if (types.get? source).isNone || (types.get? target).isNone then .noConversion
  else if types.isImplicitNumeric source target then .implicitNumeric
  else if types.isNull source && (types.isReferenceType target || types.isPointer target) then
    .implicitReference
  else if types.isImplicitReference source target then .implicitReference
  else if types.boxes source target then .boxing
  else .ofOperator? (types.closestOperator? source target true)

/-- The implicit conversions, then numeric casts, casts between references, unboxing and
operators. -/
def standardExplicit (types : TypeTable) (source target : TypeId) : Conversion :=
  let implicit := types.standardImplicit source target
  if implicit.isPossible then implicit
  else if types.isNumericLike source && types.isNumericLike target then .implicitNumeric
  else if types.isReferenceType source && types.isReferenceType target &&
      (types.derivesFrom target source || types.isInterface source || types.isInterface target) then
    .implicitReference
  else if types.isValueType target &&
      (types.isObject source ||
        (types.isInterface source && types.implementsInterface target source)) then .boxing
  else .ofOperator? (types.closestOperator? source target false)

end TypeTable

/-- The conversion rules of the language below the dialects. -/
structure StandardRules where
  implicit : TypeTable → TypeId → TypeId → Conversion
  explicit : TypeTable → TypeId → TypeId → Conversion
  boxes : TypeTable → TypeId → TypeId → Bool

namespace StandardRules

def core : StandardRules :=
  ⟨TypeTable.standardImplicit, TypeTable.standardExplicit, TypeTable.boxes⟩

/-- Rules with one answer for all types. -/
def constant (implicit explicit : Conversion) (boxes : Bool) : StandardRules :=
  ⟨fun _ _ _ => implicit, fun _ _ _ => explicit, fun _ _ _ => boxes⟩

end StandardRules

end DialectBinder
