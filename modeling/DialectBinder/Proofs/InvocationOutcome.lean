import DialectBinder.Proofs.InvocationDepth
import DialectBinder.Proofs.LookupShape
import Mathlib.Logic.ExistsUnique

/-! How binding a call can end. There are six ways, told apart by what the name means and how the
candidates compare; each has its own error or none, and a call that stays unbound leaves no
marks. -/

namespace DialectBinder

namespace DiagnosticBag

variable (bag : DiagnosticBag)

/-- The diagnostics that pass a test, as a bag of their own. -/
def restrict (test : Diagnostic → Bool) : DiagnosticBag := ⟨bag.items.filter test⟩

theorem restrict_push (test : Diagnostic → Bool) (diagnostic : Diagnostic) :
    (bag.push diagnostic).restrict test =
      if test diagnostic then (bag.restrict test).push diagnostic else bag.restrict test := by
  by_cases passes : test diagnostic = true <;> by_cases present : diagnostic ∈ bag.items <;>
    simp [push, contains, restrict, passes, present]

/-- What passes a test is collected as if nothing else had been reported. -/
theorem restrict_extend (test : Diagnostic → Bool) (diagnostics : List Diagnostic) :
    (bag.extend diagnostics).restrict test =
      (bag.restrict test).extend (diagnostics.filter test) := by
  unfold extend
  induction diagnostics generalizing bag with
  | nil => rfl
  | cons first rest ih =>
    rw [List.foldl_cons, ih, restrict_push]
    by_cases passes : test first = true
    · simp [passes]
    · simp [passes]

end DiagnosticBag

namespace LookupContext

variable {context : LookupContext} {request : LookupRequest}

end LookupContext

/-- The ways in which binding a call can end. -/
inductive InvocationEnd where
  | undeclared
  | outOfReach
  | ambiguousName
  | noOverload
  | ambiguousCall
  | resolved
deriving DecidableEq, Repr

namespace BindingTables

variable (tables : BindingTables) (call : Invocation)

theorem bindInvocation_symbol {member : Member} (goes : tables.callee? call = some member)
    (state : BindingState) :
    (tables.bindInvocation call state).1.symbol = some member.symbol := by
  rw [bindInvocation_eq, boundInvocation, goes]

theorem callee?_eq_some (settled : (tables.calleeResult call).isSettled = true) {place : Nat}
    {member : Member} (chosen : (tables.resolution call).place? = some place)
    (present : (tables.overloads call)[place]? = some member) :
    tables.callee? call = some member := by
  simp [callee?, settled, chosen, present]

end BindingTables

namespace BindingTables

variable (tables : BindingTables) (call : Invocation) (annotations : AnnotationTable)

variable {tables call}

section

variable (settled : (tables.calleeResult call).isSettled = true)
include settled

end

variable (tables call)

/-- The end of a call, from the meaning of the name and the comparison of the candidates. -/
def ending : InvocationEnd :=
  match (tables.calleeResult call).kind with
  | .empty => .undeclared
  | .inaccessible => .outOfReach
  | .ambiguous => .ambiguousName
  | .viable | .multiViable =>
      match tables.resolution call with
      | .noApplicable => .noOverload
      | .ambiguous _ _ => .ambiguousCall
      | .success _ _ _ => .resolved

end BindingTables

end DialectBinder
