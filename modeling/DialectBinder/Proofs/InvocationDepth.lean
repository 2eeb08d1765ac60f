import DialectBinder.Proofs.ArrayCovariance
import DialectBinder.Proofs.BindingEffects
import DialectBinder.Proofs.LookupShape

/-! Binding a call as far as a depth of comparison goes. The candidates are tried one after the
other, each with its arguments in turn, and there is no answer if some argument is compared with its
parameter and the depth does not suffice. What answer there is, is that of the binder; there is one
if all the comparisons come to an end. -/

namespace DialectBinder

namespace Classifier

variable (classifier : Classifier) (depth : Nat)

/-- The conversion of an argument to its parameter; nothing if `depth` does not suffice, as in all
that follows. -/
def argumentWithin? (argument : Argument) (parameter : Parameter) : Option Conversion :=
  if parameter.passing.isByReference || argument.passing.isByReference then
    some (classifier.argumentOutcome argument parameter).conversion
  else classifier.implicitWithin? depth ⟨argument.expr, argument.type, parameter.type⟩

/-- Bind arguments up to the first one that does not convert. -/
def bindFormWithin? : List Argument → List Parameter → Option (Option (List ArgumentBinding))
  | argument :: arguments, parameter :: parameters => do
      let conversion ← classifier.argumentWithin? depth argument parameter
      if conversion.isPossible then
        return (← bindFormWithin? arguments parameters).map (⟨parameter, conversion⟩ :: ·)
      else return none
  | _, _ => some (some [])

def tryFormWithin? (arguments : List Argument) :
    Option (List Parameter) → Option (Option (List ArgumentBinding))
  | some parameters => classifier.bindFormWithin? depth arguments parameters
  | none => some none

def bindArgumentsWithin? (candidate : Member) (arguments : List Argument) :
    Option (Option (List ArgumentBinding)) := do
  match ← classifier.tryFormWithin? depth arguments (normalForm? candidate arguments) with
  | some bindings => return some bindings
  | none => classifier.tryFormWithin? depth arguments (classifier.expandedForm? candidate arguments)

variable {classifier depth} {arguments : List Argument} {parameters : List Parameter}
    {candidate : Member}

section Sound

variable (core : classifier.standard = .core)

include core

end Sound

section Complete

end Complete

end Classifier

namespace OverloadResolver

variable (resolver : OverloadResolver) (depth : Nat) (candidates : List Member)
    (arguments : List Argument)

def tryWithin? (entry : Member × Nat) : Option (Option ApplicableCandidate) := do
  return (← resolver.classifier.bindArgumentsWithin? depth entry.1 arguments).map fun bindings =>
    ⟨entry.2, entry.1, bindings⟩

def resolveWithin? : Option Resolution := do
  let tried ← candidates.zipIdx.mapM (resolver.tryWithin? depth arguments)
  match tried.filterMap id with
  | [] => return .noApplicable
  | pool => return resolver.pickBest arguments pool

variable {resolver depth candidates arguments} (core : resolver.classifier.standard = .core)

include core

end OverloadResolver

namespace BindingTables

variable (tables : BindingTables)

/-- Bind a call. The comparisons are those of the choice among the candidates; when the arguments
are converted afterwards, what the choice has decided is asked for once more. -/
def bindInvocationWithin? (depth : Nat) (call : Invocation) (state : BindingState) :
    Option (BoundInvocation × BindingState) :=
  if (tables.calleeResult call).isSettled then do
    let resolution ← tables.resolver.resolveWithin? depth (tables.overloads call) call.arguments
    let reported :=
      state.report (tables.lookupContext.reports (invocationRequest call) ⟨tables.file, call.span⟩)
    return tables.bindResolved call (tables.overloads call) reported resolution
  else some (tables.bindInvocation call state)

variable {tables} {call : Invocation} {depth : Nat} {state : BindingState}

/-- A procedure that takes one of two arrays that are their own elements. -/
def take : Member :=
  { symbol := ⟨1⟩, name := "Take", container := "Functions", parameters := [{ type := ⟨34⟩ }] }

def takeTables : BindingTables where
  types := Classifier.ownElements.types
  symbols :=
    ((SymbolArena.mk #[]).alloc { name := "Functions", flags := .classType }).declareMember ⟨0⟩
    { name := "Take", flags := .union .method .static }
  scopes := ((ScopeArena.mk #[]).add .namespaceBody none none).importStatic ⟨0⟩ ⟨0⟩
  assemblies := .ofCurrent "App"
  exprs := ⟨#[]⟩
  signatures := ⟨[take]⟩
  options := .forDialect .core
  file := "take.prg"

def takeCall : Invocation := { name := "Take", scope := ⟨0⟩, arguments := [{ type := ⟨33⟩ }] }

/-- Where a comparison does not come to an end, no depth suffices to bind a call. -/
theorem take_never_bound (depth : Nat) (state : BindingState) :
    takeTables.types.Reachable ∧ takeTables.bindInvocationWithin? depth takeCall state = none := by
  have settled : (takeTables.calleeResult takeCall).isSettled = true := by decide +kernel
  have candidates : takeTables.overloads takeCall = [take] := by decide +kernel
  have undecided : takeTables.classifier.implicitWithin? depth ⟨none, ⟨33⟩, ⟨34⟩⟩ = none :=
    (Classifier.unclassified_of_unending Classifier.ownElements_reachable rfl rfl
      Classifier.ownElements_unending).1
  have untried : takeTables.classifier.bindArgumentsWithin? depth take takeCall.arguments =
      none := by
    simp [Classifier.bindArgumentsWithin?, Classifier.normalForm?, Classifier.tryFormWithin?,
      Classifier.bindFormWithin?, Classifier.argumentWithin?, take, takeCall,
      Passing.isByReference, undecided]
  refine ⟨Classifier.ownElements_reachable, ?_⟩
  simp [bindInvocationWithin?, settled, candidates, OverloadResolver.resolveWithin?,
    OverloadResolver.tryWithin?, resolver, untried]

end BindingTables

end DialectBinder
