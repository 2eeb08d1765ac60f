import DialectBinder.Proofs.BindingEffects

/-! Binding may be repeated. A second run finds the marks and the diagnostics of the first one in
place, and neither marking nor reporting repeats what is there. -/

namespace DialectBinder

namespace DiagnosticBag

variable {bag : DiagnosticBag}

theorem push_of_mem {diagnostic : Diagnostic} (known : diagnostic ∈ bag.items) :
    bag.push diagnostic = bag := by
  simp [push, contains, known]

theorem mem_push {diagnostic other : Diagnostic} :
    other ∈ (bag.push diagnostic).items ↔ other ∈ bag.items ∨ other = diagnostic := by
  by_cases known : diagnostic ∈ bag.items
  · rw [push_of_mem known]
    constructor
    · exact .inl
    · rintro (held | rfl)
      · exact held
      · exact known
  · simp [push, contains, known]

theorem mem_extend {diagnostics : List Diagnostic} {other : Diagnostic} :
    other ∈ (bag.extend diagnostics).items ↔ other ∈ bag.items ∨ other ∈ diagnostics := by
  unfold extend
  induction diagnostics generalizing bag with
  | nil => simp
  | cons first rest ih => rw [List.foldl_cons, ih, mem_push, List.mem_cons, or_assoc]

theorem extend_of_subset {diagnostics : List Diagnostic}
    (known : ∀ diagnostic ∈ diagnostics, diagnostic ∈ bag.items) :
    bag.extend diagnostics = bag := by
  unfold extend
  induction diagnostics with
  | nil => rfl
  | cons first rest ih =>
    have head : first ∈ bag.items := known first (by simp)
    have tail : ∀ diagnostic ∈ rest, diagnostic ∈ bag.items :=
      fun diagnostic member => known diagnostic (by simp [member])
    rw [List.foldl_cons, push_of_mem head, ih tail]

/-- Diagnostics that are reported again are not stored again. -/
theorem extend_again (bag : DiagnosticBag) (diagnostics : List Diagnostic) :
    (bag.extend diagnostics).extend diagnostics = bag.extend diagnostics :=
  extend_of_subset fun _ member => mem_extend.mpr (.inr member)

end DiagnosticBag

namespace BindingTables

/-- Binding a call or an assignment once more gives the same answer, and leaves the diagnostics and
the annotations as the first run left them. -/
theorem rebinding_changes_nothing (tables : BindingTables) (state : BindingState) :
    (∀ call, tables.bindInvocation call (tables.bindInvocation call state).2 =
      tables.bindInvocation call state) ∧
      ∀ expr target,
        tables.bindAssignment expr target (tables.bindAssignment expr target state).2 =
          tables.bindAssignment expr target state := by
  -- The second run starts from another table than the first, but both report from the same one: the
  -- marks are there already.
  constructor
  · intro call
    have marked := state.annotations.markAll_again (tables.invocationMarks call)
    simp only [bindInvocation_eq, marked, DiagnosticBag.extend_again]
  · intro expr target
    have marked := state.annotations.markAll_again (tables.assignmentMarks expr target)
    simp only [bindAssignment_eq, marked, DiagnosticBag.extend_again]

end BindingTables

end DialectBinder
