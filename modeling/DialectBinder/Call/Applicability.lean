import DialectBinder.Call.Argument
import DialectBinder.Conversion.Classification

/-! Whether a candidate takes the arguments of a call, as it is written or, with a parameter array at
its end, with one element parameter for each further argument. -/

namespace DialectBinder

/-- The parameter that an argument goes to, and the conversion on the way. -/
structure ArgumentBinding where
  parameter : Parameter
  conversion : Conversion
deriving DecidableEq, Repr

namespace Classifier

/-- Whether the way an argument is passed is the one that the parameter asks for. The legacy
dialects take the address of a plain variable where a reference is asked for. -/
def passingAgrees (classifier : Classifier) (argument : Argument) (parameter : Parameter) : Bool :=
  argument.passing == parameter.passing ||
    match argument.passing, parameter.passing with
    | .byValue, .byIn => true
    | .byValue, .byRef => argument.addressable && classifier.options.legacyRules
    | _, _ => false

/-- The conversion of an argument to its parameter. What is passed by reference is not converted. -/
def argumentOutcome (classifier : Classifier) (argument : Argument) (parameter : Parameter) : ConversionOutcome :=
  if parameter.passing.isByReference || argument.passing.isByReference then
    if classifier.passingAgrees argument parameter && argument.type == parameter.type then { conversion := .identity }
    else { conversion := .noConversion }
  else (classifier.classify ⟨argument.expr, argument.type, parameter.type⟩).toConversionOutcome

/-- The parameters as they are written, if there is one for each argument. -/
def normalForm? (candidate : Member) (arguments : List Argument) : Option (List Parameter) :=
  if candidate.parameters.length == arguments.length then some candidate.parameters else none

/-- The parameters before the parameter array and one of its element type for each argument that
is left. -/
def expandedForm? (classifier : Classifier) (candidate : Member) (arguments : List Argument) :
    Option (List Parameter) := do
  let tail ← candidate.variadicTail?
  let fixed := candidate.parameters.dropLast
  guard (fixed.length ≤ arguments.length)
  let element ← classifier.types.element? tail.type
  return fixed ++ List.replicate (arguments.length - fixed.length) { type := element }

/-- The bindings of arguments to as many parameters, if each argument converts. -/
def bindForm? (classifier : Classifier) : List Argument → List Parameter → Option (List ArgumentBinding)
  | argument :: arguments, parameter :: parameters =>
      let conversion := (classifier.argumentOutcome argument parameter).conversion
      if conversion.isPossible then
        (classifier.bindForm? arguments parameters).map (⟨parameter, conversion⟩ :: ·)
      else none
  | _, _ => some []

/-- Leave the marks of the arguments' conversions, up to the first argument that does not convert. -/
def commitForm (classifier : Classifier) (table : AnnotationTable) :
    List Argument → List Parameter → AnnotationTable
  | argument :: arguments, parameter :: parameters =>
      let outcome := classifier.argumentOutcome argument parameter
      if outcome.conversion.isPossible then
        classifier.commitForm (classifier.commitMarks table argument.expr outcome.annotations) arguments parameters
      else table
  | _, _ => table

/-- The form in which a candidate is tried: as written if it takes the arguments so, else expanded. -/
def chosenForm? (classifier : Classifier) (candidate : Member) (arguments : List Argument) :
    Option (List Parameter) :=
  match (normalForm? candidate arguments).filter fun parameters => (classifier.bindForm? arguments parameters).isSome with
  | some parameters => some parameters
  | none => classifier.expandedForm? candidate arguments

/-- The bindings of the arguments to a candidate that takes them. -/
def bindArguments? (classifier : Classifier) (candidate : Member) (arguments : List Argument) :
    Option (List ArgumentBinding) :=
  (classifier.chosenForm? candidate arguments).bind (classifier.bindForm? arguments)

def isApplicable (classifier : Classifier) (candidate : Member) (arguments : List Argument) : Bool :=
  (classifier.bindArguments? candidate arguments).isSome

/-- Bind the arguments to a candidate and leave the marks of their conversions. -/
def commitArguments (classifier : Classifier) (table : AnnotationTable) (candidate : Member)
    (arguments : List Argument) : List ArgumentBinding × AnnotationTable :=
  match classifier.chosenForm? candidate arguments with
  | some parameters =>
      ((classifier.bindForm? arguments parameters).getD [], classifier.commitForm table arguments parameters)
  | none => ([], table)

end Classifier

end DialectBinder
