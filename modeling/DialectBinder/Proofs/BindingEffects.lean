import DialectBinder.Binding.Assignment
import DialectBinder.Binding.Invocation
import DialectBinder.Proofs.AnnotationJoins
import DialectBinder.Proofs.Resolution
import Mathlib.Data.List.TakeWhile

/-! What binding does, apart from the state it starts in: the answer and the marks of a call or an
assignment depend on the tables alone, and only the advice that is reported reads the marks. -/

namespace DialectBinder

namespace DiagnosticBag

theorem extend_append (bag : DiagnosticBag) (diagnostics more : List Diagnostic) :
    bag.extend (diagnostics ++ more) = (bag.extend diagnostics).extend more :=
  List.foldl_append

end DiagnosticBag

/-- Nothing has been found or decided yet. -/
def BindingState.initial : BindingState := ⟨.empty, {}⟩

theorem BindingState.report_nil (state : BindingState) : state.report [] = state := rfl

theorem BindingState.report_report (state : BindingState) (diagnostics more : List Diagnostic) :
    (state.report diagnostics).report more = state.report (diagnostics ++ more) := by
  simp [report, DiagnosticBag.extend_append]

namespace Classifier

variable (classifier : Classifier)

/-- The marks of a conversion: those on its expression, and the advice among them on the assignment
around it. -/
def marksOf : Option ExprId → Annotations → List (ExprId × Annotations)
  | none, _ => []
  | some source, flags =>
      (source, flags) ::
        ((classifier.exprs.enclosingAssignment? source).map (·, flags.warnings)).toList

theorem commitMarks_eq_markAll (table : AnnotationTable) (expr : Option ExprId)
    (flags : Annotations) :
    classifier.commitMarks table expr flags = table.markAll (classifier.marksOf expr flags) := by
  cases expr with
  | none => rfl
  | some source =>
    simp only [commitMarks, marksOf]
    cases classifier.exprs.enclosingAssignment? source <;> rfl

def converts (position : Argument × Parameter) : Bool :=
  (classifier.argumentOutcome position.1 position.2).conversion.isPossible

def bindingAt (position : Argument × Parameter) : ArgumentBinding :=
  ⟨position.2, (classifier.argumentOutcome position.1 position.2).conversion⟩

/-- The marks of the conversion of an argument to its parameter. -/
def marksAt (position : Argument × Parameter) : List (ExprId × Annotations) :=
  classifier.marksOf position.1.expr (classifier.argumentOutcome position.1 position.2).annotations

def argumentMarks (arguments : List Argument) (parameters : List Parameter) :
    List (ExprId × Annotations) :=
  (arguments.zip parameters).flatMap classifier.marksAt

/-- Either every argument is bound or none. -/
theorem bindForm?_eq (arguments : List Argument) (parameters : List Parameter) :
    classifier.bindForm? arguments parameters =
      if (arguments.zip parameters).all classifier.converts then
        some ((arguments.zip parameters).map classifier.bindingAt)
      else none := by
  induction arguments generalizing parameters with
  | nil => rfl
  | cons argument arguments ih =>
    cases parameters with
    | nil => rfl
    | cons parameter parameters =>
      simp only [bindForm?, List.zip_cons_cons, List.all_cons, List.map_cons, ih]
      split
      · rename_i possible
        have here : classifier.converts (argument, parameter) = true := possible
        simp only [here, Bool.true_and]
        split <;> rfl
      · rename_i impossible
        have here : classifier.converts (argument, parameter) = false :=
          Bool.eq_false_iff.mpr impossible
        simp [here]

/-- Committing arguments leaves their marks one after the other, up to the first argument that does
not convert. -/
theorem commitForm_eq (arguments : List Argument) (parameters : List Parameter)
    (table : AnnotationTable) :
    classifier.commitForm table arguments parameters =
      table.markAll
        (((arguments.zip parameters).takeWhile classifier.converts).flatMap
          classifier.marksAt) := by
  induction arguments generalizing parameters table with
  | nil => rfl
  | cons argument arguments ih =>
    cases parameters with
    | nil => rfl
    | cons parameter parameters =>
      simp only [commitForm, List.zip_cons_cons, List.takeWhile_cons]
      split
      · rename_i possible
        have here : classifier.converts (argument, parameter) = true := possible
        rw [if_pos here, List.flatMap_cons, AnnotationTable.markAll_append, ih,
          commitMarks_eq_markAll]
        rfl
      · rename_i impossible
        have here : ¬classifier.converts (argument, parameter) = true := impossible
        rw [if_neg here]
        rfl

/-- If every argument converts, committing them leaves all their marks. -/
theorem commitForm_eq_markAll (arguments : List Argument) (parameters : List Parameter)
    (converts : (classifier.bindForm? arguments parameters).isSome = true)
    (table : AnnotationTable) :
    classifier.commitForm table arguments parameters =
      table.markAll (classifier.argumentMarks arguments parameters) := by
  have all : (arguments.zip parameters).all classifier.converts = true := by
    rw [bindForm?_eq] at converts
    split at converts
    · assumption
    · cases converts
  rw [commitForm_eq, List.takeWhile_eq_self_iff.mpr (List.all_eq_true.mp all)]
  rfl

def memberMarks (candidate : Member) (arguments : List Argument) : List (ExprId × Annotations) :=
  match classifier.chosenForm? candidate arguments with
  | some parameters => classifier.argumentMarks arguments parameters
  | none => []

theorem commitArguments_bindings (table : AnnotationTable) (candidate : Member)
    (arguments : List Argument) :
    (classifier.commitArguments table candidate arguments).1 =
      (classifier.bindArguments? candidate arguments).getD [] := by
  unfold commitArguments bindArguments?
  cases classifier.chosenForm? candidate arguments <;> rfl

theorem commitArguments_marks {candidate : Member} {arguments : List Argument}
    (takes : classifier.isApplicable candidate arguments = true) (table : AnnotationTable) :
    (classifier.commitArguments table candidate arguments).2 =
      table.markAll (classifier.memberMarks candidate arguments) := by
  unfold isApplicable bindArguments? at takes
  unfold commitArguments memberMarks
  cases form : classifier.chosenForm? candidate arguments with
  | none => rfl
  | some parameters =>
    rw [form, Option.bind_some] at takes
    exact classifier.commitForm_eq_markAll arguments parameters takes table

end Classifier

/-- The place of the candidate that a call goes to. -/
def Resolution.place? : Resolution → Option Nat
  | .success place _ _ => some place
  | .ambiguous first _ => some first
  | .noApplicable => none

namespace OverloadResolver

variable {resolver : OverloadResolver} {candidates : List Member} {arguments : List Argument}

theorem applicableAt_of_place? {place : Nat}
    (chosen : (resolver.resolve candidates arguments).place? = some place) :
    resolver.ApplicableAt candidates arguments place := by
  cases answer : resolver.resolve candidates arguments with
  | noApplicable => simp [answer, Resolution.place?] at chosen
  | success index byTieBreak ambiguous =>
    obtain rfl : index = place := by simpa [answer, Resolution.place?] using chosen
    exact (resolve_success_iff.mp answer).1.1
  | ambiguous first second =>
    obtain rfl : first = place := by simpa [answer, Resolution.place?] using chosen
    cases resolve_eq_iff.mp answer with
    | ambiguous _ unbeaten otherwise => exact (lowestTwo_applicable unbeaten otherwise).2.1

end OverloadResolver

namespace BindingTables

variable (tables : BindingTables)

def calleeResult (call : Invocation) : LookupResult :=
  (tables.lookupContext.search (invocationRequest call)).result

def overloads (call : Invocation) : List Member :=
  tables.signatures.candidates (tables.calleeResult call).symbols

def resolution (call : Invocation) : Resolution :=
  tables.resolver.resolve (tables.overloads call) call.arguments

/-- The member that a call goes to, also where the call is ambiguous. -/
def callee? (call : Invocation) : Option Member :=
  if (tables.calleeResult call).isSettled then (tables.resolution call).place?.bind
    ((tables.overloads call)[·]?)
  else none

def choiceReports (call : Invocation) : List Diagnostic :=
  match tables.resolution call with
  | .success place _ ambiguous =>
      if ambiguous then
        ((tables.overloads call)[place]?.map (tables.functionChosen · call.span)).toList
      else []
  | .ambiguous first second =>
      match (tables.overloads call)[first]?, (tables.overloads call)[second]? with
      | some chosen, some other => [tables.ambiguousCall chosen other call.span]
      | _, _ => []
  | .noApplicable => [tables.noApplicableOverload call.name call.span]

/-- What is reported on the meaning of the name, or else on the choice. -/
def verdict (call : Invocation) : List Diagnostic :=
  match (tables.calleeResult call).kind with
  | .empty => []
  | .inaccessible => tables.inaccessibleSymbol (tables.calleeResult call) call.span
  | .ambiguous => tables.ambiguousReference call.name (tables.calleeResult call) call.span
  | .viable | .multiViable => tables.choiceReports call

/-- What is reported on a call before its arguments are converted. -/
def calleeReports (call : Invocation) : List Diagnostic :=
  tables.lookupContext.reports (invocationRequest call) ⟨tables.file, call.span⟩ ++
    tables.verdict call

theorem bindCandidates_eq (call : Invocation) (state : BindingState) :
    tables.bindCandidates call (tables.overloads call) state =
      match (tables.resolution call).place?.bind ((tables.overloads call)[·]?) with
      | some member =>
          tables.bindMember call (tables.resolution call) member
            (state.report (tables.choiceReports call))
      | none => (.unbound, state.report (tables.choiceReports call)) := by
  have compared : tables.resolver.resolve (tables.overloads call) call.arguments =
      tables.resolution call := rfl
  unfold bindCandidates bindResolved choiceReports
  rw [compared]
  cases tables.resolution call with
  | noApplicable => rfl
  | success place byTieBreak ambiguous =>
    cases present : (tables.overloads call)[place]? with
    | none => cases ambiguous <;> simp [Resolution.place?, present, BindingState.report_nil]
    | some member => cases ambiguous <;> simp [Resolution.place?, present, BindingState.report_nil]
  | ambiguous first second =>
    cases present : (tables.overloads call)[first]? with
    | none => simp [Resolution.place?, present, BindingState.report_nil]
    | some chosen =>
      cases rival : (tables.overloads call)[second]? with
      | none => simp [Resolution.place?, present, rival, BindingState.report_nil]
      | some other => simp [Resolution.place?, present, rival]

def memberBindings (call : Invocation) (member : Member) : List ArgumentBinding :=
  (tables.classifier.bindArguments? member call.arguments).getD []

def boundInvocation (call : Invocation) : BoundInvocation :=
  match tables.callee? call with
  | some member =>
      ⟨some member.symbol, tables.resolution call,
        (tables.memberBindings call member).map (·.conversion)⟩
  | none => .unbound

def invocationMarks (call : Invocation) : List (ExprId × Annotations) :=
  match tables.callee? call with
  | some member => tables.classifier.memberMarks member call.arguments
  | none => []

/-- What is reported on a call, with the advice that the marks carry after its arguments are
converted. -/
def invocationReports (call : Invocation) (after : AnnotationTable) : List Diagnostic :=
  tables.calleeReports call ++
    match tables.callee? call with
    | some member =>
      tables.argumentWarnings after call.span call.arguments (tables.memberBindings call member)
    | none => []

theorem callee?_place {call : Invocation} {member : Member}
    (goes : tables.callee? call = some member) :
    ∃ place, (tables.resolution call).place? = some place ∧
      (tables.overloads call)[place]? = some member := by
  unfold callee? at goes
  split at goes
  · exact Option.bind_eq_some_iff.mp goes
  · cases goes

theorem callee?_applicable {call : Invocation} {member : Member}
    (goes : tables.callee? call = some member) :
    tables.classifier.isApplicable member call.arguments = true := by
  obtain ⟨place, chosen, present⟩ := tables.callee?_place goes
  obtain ⟨found, same, takes⟩ := OverloadResolver.applicableAt_of_place? chosen
  rw [Option.some.inj (present.symm.trans same)]
  exact takes

/-- A call is reported on, and then goes to its callee if there is one. -/
theorem bindInvocation_callee (call : Invocation) (state : BindingState) :
    tables.bindInvocation call state =
      match tables.callee? call with
      | some member =>
          tables.bindMember call (tables.resolution call) member
            (state.report (tables.calleeReports call))
      | none => (.unbound, state.report (tables.calleeReports call)) := by
  have found : (tables.lookupContext.search (invocationRequest call)).result =
      tables.calleeResult call := rfl
  have candidates : tables.signatures.candidates (tables.calleeResult call).symbols =
      tables.overloads call := rfl
  cases kind : (tables.calleeResult call).kind <;>
    simp only [bindInvocation, callee?, calleeReports, verdict, LookupContext.lookup, found,
      candidates, kind, LookupResult.isSettled, bindCandidates_eq, ← BindingState.report_report] <;>
    rfl

theorem bindMember_eq {call : Invocation} {member : Member}
    (takes : tables.classifier.isApplicable member call.arguments = true) (resolution : Resolution)
    (state : BindingState) :
    tables.bindMember call resolution member state =
      (⟨some member.symbol, resolution, (tables.memberBindings call member).map (·.conversion)⟩,
        ⟨state.annotations.markAll (tables.classifier.memberMarks member call.arguments),
          state.diagnostics.extend (tables.argumentWarnings
            (state.annotations.markAll (tables.classifier.memberMarks member call.arguments))
              call.span
            call.arguments (tables.memberBindings call member))⟩) := by
  have bindings :=
    tables.classifier.commitArguments_bindings state.annotations member call.arguments
  have marks := tables.classifier.commitArguments_marks takes state.annotations
  simp only [bindMember, bindings, marks]
  rfl

theorem bindInvocation_eq (call : Invocation) (state : BindingState) :
    tables.bindInvocation call state =
      (tables.boundInvocation call,
        ⟨state.annotations.markAll (tables.invocationMarks call),
          state.diagnostics.extend
            (tables.invocationReports call
              (state.annotations.markAll (tables.invocationMarks call)))⟩) := by
  rw [bindInvocation_callee]
  unfold boundInvocation invocationMarks invocationReports
  cases goes : tables.callee? call with
  | none => simp [BindingState.report]
  | some member =>
    simp only [tables.bindMember_eq (tables.callee?_applicable goes), BindingState.report,
      DiagnosticBag.extend_append]

/-- What is reported on an assignment, with the advice that the marks carry after the conversion. -/
def assignmentReports (expr : ExprId) (target : TypeId) (after : AnnotationTable) :
    List Diagnostic :=
  let source := tables.exprs.typeOf expr
  let span := tables.exprs.spanOf expr
  if (tables.classifier.implicit (.ofExpr tables.exprs expr target)).isPossible then
    tables.conversionWarnings (after.get expr) expr source target span
  else if source == .error || target == .error then []
  else [tables.cannotConvert source target span]

def assignmentMarks (expr : ExprId) (target : TypeId) : List (ExprId × Annotations) :=
  tables.classifier.marksOf (some expr)
    (tables.classifier.classify (.ofExpr tables.exprs expr target)).annotations

theorem bindAssignment_eq (expr : ExprId) (target : TypeId) (state : BindingState) :
    tables.bindAssignment expr target state =
      (tables.classifier.implicit (.ofExpr tables.exprs expr target),
        ⟨state.annotations.markAll (tables.assignmentMarks expr target),
          state.diagnostics.extend
            (tables.assignmentReports expr target
              (state.annotations.markAll (tables.assignmentMarks expr target)))⟩) := by
  simp only [bindAssignment, Classifier.commit, Classifier.commitMarks_eq_markAll,
    BindingState.report]
  rfl

end BindingTables

inductive BindingTask where
  | invocation (call : Invocation)
  | assignment (expr : ExprId) (target : TypeId)
deriving DecidableEq, Repr

inductive BindingAnswer where
  | invocation (bound : BoundInvocation)
  | assignment (conversion : Conversion)
deriving DecidableEq, Repr

namespace BindingTables

variable (tables : BindingTables)

def perform (task : BindingTask) (state : BindingState) : BindingAnswer × BindingState :=
  match task with
  | .invocation call => (tables.bindInvocation call state).map .invocation id
  | .assignment expr target => (tables.bindAssignment expr target state).map .assignment id

def performAll (tables : BindingTables) :
    List BindingTask → BindingState → List BindingAnswer × BindingState
  | [], state => ([], state)
  | task :: rest, state =>
      let (answer, next) := tables.perform task state
      let (answers, last) := tables.performAll rest next
      (answer :: answers, last)

/-- The answer for a task that is bound on its own. -/
def answer (task : BindingTask) : BindingAnswer := (tables.perform task .initial).1

/-- The marks of a task: the pending annotations of each conversion that it commits, on the
expression that is converted, and the advice among them on the assignment around it. -/
def marks : BindingTask → List (ExprId × Annotations)
  | .invocation call => tables.invocationMarks call
  | .assignment expr target => tables.assignmentMarks expr target

theorem perform_answer (task : BindingTask) (state : BindingState) :
    (tables.perform task state).1 = tables.answer task := by
  unfold answer
  cases task with
  | invocation call => simp only [perform, bindInvocation_eq, Prod.map]
  | assignment expr target => simp only [perform, bindAssignment_eq, Prod.map]

theorem perform_annotations (task : BindingTask) (state : BindingState) :
    (tables.perform task state).2.annotations = state.annotations.markAll (tables.marks task) := by
  cases task with
  | invocation call => simp only [perform, bindInvocation_eq, Prod.map, marks, id]
  | assignment expr target => simp only [perform, bindAssignment_eq, Prod.map, marks, id]

theorem performAll_answers (tasks : List BindingTask) (state : BindingState) :
    (tables.performAll tasks state).1 = tasks.map tables.answer := by
  induction tasks generalizing state with
  | nil => rfl
  | cons task rest ih => simp only [performAll, perform_answer, ih, List.map_cons]

theorem performAll_annotations (tasks : List BindingTask) (state : BindingState) :
    (tables.performAll tasks state).2.annotations =
    state.annotations.markAll (tasks.flatMap tables.marks) := by
  induction tasks generalizing state with
  | nil => rfl
  | cons task rest ih =>
    simp only [performAll, ih, perform_annotations, List.flatMap_cons,
      AnnotationTable.markAll_append]

end BindingTables

end DialectBinder
