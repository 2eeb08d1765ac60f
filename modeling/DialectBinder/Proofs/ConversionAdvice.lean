import DialectBinder.Proofs.BindingEffects
import DialectBinder.Proofs.RuleCascade

/-! The advice that binding an assignment reports. It is read from the marks that the expression
carries after the conversion, so it is that of the conversion together with whatever earlier
conversions have left there. -/

namespace DialectBinder

inductive Advice where
  | signChange
  | narrowing
deriving DecidableEq, Repr

namespace Advice

def message : Advice → Message
  | signChange => .signChange
  | narrowing => .narrowing

def isIn : Advice → Annotations → Bool
  | signChange, flags => flags.signChange
  | narrowing, flags => flags.narrowing

variable (advice : Advice)

@[simp]
theorem isIn_empty : advice.isIn {} = false := by
  cases advice <;> rfl

@[simp]
theorem isIn_union (flags more : Annotations) :
    advice.isIn (flags.union more) = (advice.isIn flags || advice.isIn more) := by
  cases advice <;> rfl

@[simp]
theorem isIn_warnings (flags : Annotations) : advice.isIn flags.warnings = advice.isIn flags := by
  cases advice <;> rfl

theorem isIn_flagsAt (expr : ExprId) (marks : List (ExprId × Annotations)) :
    advice.isIn (AnnotationTable.flagsAt expr marks) = true ↔
      ∃ mark ∈ marks, mark.1 = expr ∧ advice.isIn mark.2 = true := by
  induction marks with
  | nil => simp [AnnotationTable.flagsAt]
  | cons mark rest ih =>
    have unfolded : AnnotationTable.flagsAt expr (mark :: rest) =
        if mark.1 = expr then mark.2.union (AnnotationTable.flagsAt expr rest)
        else AnnotationTable.flagsAt expr rest := rfl
    rw [unfolded]
    by_cases same : mark.1 = expr
    · simp [same, ih]
    · simp [same, ih]

end Advice

namespace Classifier

variable {classifier : Classifier} {query : ConversionQuery}

/-- A legacy rule that decides against a conversion leaves no marks. -/
theorem applyRule?_marks (rule : LegacyRule) {outcome : ConversionOutcome}
    (decided : outcome ∈ classifier.applyRule? query rule) :
    outcome.conversion.isPossible = true ∨ outcome.annotations = {} := by
  by_cases widening : rule = .binaryWidening
  · subst widening
    revert outcome
    simp only [applyRule?, binaryWidening?]
    repeat' split
    all_goals simp [Conversion.isPossible]
  · exact .inl (isPossible_of_applyRule? widening decided)

theorem classify_marks (classifier : Classifier) (query : ConversionQuery) :
    (classifier.classify query).conversion.isPossible = true ∨
      (classifier.classify query).annotations = {} := by
  unfold classify
  split
  · exact .inr rfl
  · split
    · exact .inr rfl
    · split
      · rename_i rule outcome found
        split at found
        · obtain ⟨_, _, decided⟩ := List.exists_of_findSome?_eq_some found
          obtain ⟨_, decided, same⟩ := Option.map_eq_some_iff.mp decided
          cases same
          exact applyRule?_marks _ decided
        · cases found
      · exact .inr rfl

theorem isPossible_of_advice {advice : Advice}
    (pending : advice.isIn (classifier.classify query).annotations = true) :
    (classifier.implicit query).isPossible = true := by
  rcases classifier.classify_marks query with possible | unmarked
  · exact possible
  · rw [unmarked, Advice.isIn_empty] at pending
    cases pending

/-- The marks of a conversion give its expression the advice that is pending, and no other. -/
theorem advice_marksOf (classifier : Classifier) (advice : Advice) (expr : ExprId)
    (flags : Annotations) :
    advice.isIn (AnnotationTable.flagsAt expr (classifier.marksOf (some expr) flags)) =
      advice.isIn flags := by
  rw [Bool.eq_iff_iff, Advice.isIn_flagsAt]
  constructor
  · rintro ⟨mark, member, _, carried⟩
    rcases List.mem_cons.mp member with rfl | outer
    · exact carried
    · obtain ⟨assignment, _, rfl⟩ : ∃ assignment,
      classifier.exprs.enclosingAssignment? expr = some assignment ∧
          (assignment, flags.warnings) = mark := by simpa using outer
      simpa using carried
  · intro pending
    exact ⟨(expr, flags), by simp [marksOf], rfl, pending⟩

end Classifier

namespace BindingTables

variable (tables : BindingTables)

/-- The diagnostics of these include the advice. -/
def Warns (advice : Advice) (diagnostics : List Diagnostic) : Prop :=
  ∃ diagnostic ∈ diagnostics, diagnostic.code = advice.message.code

instance (advice : Advice) (diagnostics : List Diagnostic) : Decidable (Warns advice diagnostics) :=
  inferInstanceAs (Decidable (∃ diagnostic ∈ diagnostics, diagnostic.code = advice.message.code))

theorem warns_conversionWarnings (advice : Advice) (flags : Annotations) (expr : ExprId)
    (source target : TypeId) (fallback : Span) :
    Warns advice (tables.conversionWarnings flags expr source target fallback) ↔
      advice.isIn flags = true := by
  unfold Warns conversionWarnings
  cases advice with
  | signChange =>
    cases sign : flags.signChange <;> cases narrow : flags.narrowing <;>
      simp [Advice.isIn, sign, diagnostic, Diagnostic.ofMessage, Advice.message, Message.signChange,
        Message.narrowing]
  | narrowing =>
    cases sign : flags.signChange <;> cases narrow : flags.narrowing <;>
      simp [Advice.isIn, narrow, diagnostic, Diagnostic.ofMessage, Advice.message,
        Message.signChange, Message.narrowing]

theorem warns_assignmentReports (advice : Advice) (expr : ExprId) (target : TypeId)
    (after : AnnotationTable) :
    Warns advice (tables.assignmentReports expr target after) ↔
      (tables.classifier.implicit (.ofExpr tables.exprs expr target)).isPossible = true ∧
        advice.isIn (after.get expr) = true := by
  unfold assignmentReports
  simp only
  split
  · rename_i possible
    rw [warns_conversionWarnings]
    simp [possible]
  · rename_i impossible
    have silent : ¬Warns advice
        [tables.cannotConvert (tables.exprs.typeOf expr) target (tables.exprs.spanOf expr)] := by
      cases advice <;> simp [Warns, cannotConvert, diagnostic, Diagnostic.ofMessage, Advice.message,
        Message.cannotConvert, Message.signChange, Message.narrowing]
    split
    · simp [Warns, impossible]
    · simp [silent, impossible]

/-- What binding an assignment reports, whether or not it was reported before. -/
def reportedOn (expr : ExprId) (target : TypeId) (state : BindingState) : List Diagnostic :=
  tables.assignmentReports expr target (tables.bindAssignment expr target state).2.annotations

theorem bindAssignment_diagnostics (expr : ExprId) (target : TypeId) (state : BindingState) :
    (tables.bindAssignment expr target state).2.diagnostics =
      state.diagnostics.extend (tables.reportedOn expr target state) := by
  simp only [reportedOn, bindAssignment_eq]

/-- The advice that is pending for the conversion of an expression to a type. -/
def Pending (advice : Advice) (expr : ExprId) (target : TypeId) : Prop :=
  advice.isIn (tables.classifier.classify (.ofExpr tables.exprs expr target)).annotations = true

instance (advice : Advice) (expr : ExprId) (target : TypeId) :
    Decidable (tables.Pending advice expr target) :=
  inferInstanceAs (Decidable (_ = true))

/-- The advice that tasks have left on an expression, for a conversion of their own or for that of
the value which the expression assigns. -/
def LeftOn (history : List BindingTask) (advice : Advice) (expr : ExprId) : Prop :=
  ∃ task ∈ history, ∃ mark ∈ tables.marks task, mark.1 = expr ∧ advice.isIn mark.2 = true

theorem advice_performAll (history : List BindingTask) (advice : Advice) (expr : ExprId) :
    advice.isIn ((tables.performAll history .initial).2.annotations.get expr) = true ↔
      tables.LeftOn history advice expr := by
  have start : BindingState.initial.annotations.get expr = {} := rfl
  rw [performAll_annotations, AnnotationTable.get_markAll, start, Annotations.empty_union,
    Advice.isIn_flagsAt]
  simp only [LeftOn, List.mem_flatMap]
  constructor
  · rintro ⟨mark, ⟨task, member, present⟩, carried⟩
    exact ⟨task, member, mark, present, carried⟩
  · rintro ⟨task, member, mark, present, carried⟩
    exact ⟨mark, ⟨task, member, present⟩, carried⟩

theorem warns_reportedOn_iff (advice : Advice) (expr : ExprId) (target : TypeId)
    (state : BindingState) :
    Warns advice (tables.reportedOn expr target state) ↔
      (tables.classifier.implicit (.ofExpr tables.exprs expr target)).isPossible = true ∧
        (tables.Pending advice expr target ∨ advice.isIn (state.annotations.get expr) = true) := by
  rw [reportedOn, warns_assignmentReports, bindAssignment_eq]
  simp only [AnnotationTable.get_markAll, assignmentMarks, Advice.isIn_union,
    Classifier.advice_marksOf, Pending, Bool.or_eq_true]
  rw [or_comm]

/-- Binding an assignment reports the advice pending for its conversion together with the advice
that earlier tasks have left on the expression. It is the pending advice alone exactly if they left
no other. -/
theorem assignment_advice_characterised (history : List BindingTask) (expr : ExprId)
    (target : TypeId) :
    (tables.bindAssignment expr target (tables.performAll history .initial).2).2.diagnostics =
      (tables.performAll history .initial).2.diagnostics.extend
        (tables.reportedOn expr target (tables.performAll history .initial).2) ∧
    (∀ advice, Warns advice (tables.reportedOn expr target (tables.performAll history .initial).2) ↔
      (tables.classifier.implicit (.ofExpr tables.exprs expr target)).isPossible = true ∧
        (tables.Pending advice expr target ∨ tables.LeftOn history advice expr)) ∧
    ((∀ advice,
      Warns advice (tables.reportedOn expr target (tables.performAll history .initial).2) ↔
        tables.Pending advice expr target) ↔
      ((tables.classifier.implicit (.ofExpr tables.exprs expr target)).isPossible = true →
        ∀ advice, tables.LeftOn history advice expr → tables.Pending advice expr target)) := by
  have reported (advice : Advice) :
      Warns advice (tables.reportedOn expr target (tables.performAll history .initial).2) ↔
        (tables.classifier.implicit (.ofExpr tables.exprs expr target)).isPossible = true ∧
          (tables.Pending advice expr target ∨ tables.LeftOn history advice expr) := by
    rw [warns_reportedOn_iff, advice_performAll]
  refine ⟨tables.bindAssignment_diagnostics expr target _, reported, ?_⟩
  constructor
  · intro exact possible advice left
    exact (exact advice).mp ((reported advice).mpr ⟨possible, .inr left⟩)
  · intro covered advice
    rw [reported]
    constructor
    · rintro ⟨possible, pending | left⟩
      · exact pending
      · exact covered possible advice left
    · intro pending
      exact ⟨Classifier.isPossible_of_advice pending, .inl pending⟩

/-- The expressions of `outer := narrow := wide`, where `wide` has 64 bits and the other two have
16. -/
def chainedAssignments : Except Fault ExprArena := do
  let narrow ← ExprArena.add {} (.variableAccess none) .short .dummy false
  let wide ← narrow.add (.variableAccess none) .int64 .dummy false
  let inner ← wide.add (.assignment ⟨0⟩ ⟨1⟩) .short .dummy false
  let outer ← inner.add (.variableAccess none) .short .dummy false
  outer.add (.assignment ⟨3⟩ ⟨2⟩) .short .dummy false

def chainedTables : BindingTables where
  types := .ofPointerSize 8
  symbols := {}
  scopes := {}
  assemblies := .ofCurrent "App"
  exprs := chainedAssignments.toOption.getD {}
  signatures := {}
  options := (Options.forDialect .vo).withPragma .arithmeticConversions true
  file := "chain.prg"

/-- The value of the inner assignment is narrowed, and the advice on it is left on the inner
assignment too. That one is then the value of the outer assignment, where it is not converted at
all, and yet the advice on narrowing is reported. -/
theorem narrowing_reported_for_identity :
    chainedTables.exprs.size = 5 ∧
      chainedTables.classifier.classify (.ofExpr chainedTables.exprs ⟨2⟩ .short) =
        ⟨⟨.identity, {}⟩, .identity⟩ ∧
      ¬chainedTables.Pending .narrowing ⟨2⟩ .short ∧
      Warns .narrowing
        (chainedTables.reportedOn ⟨2⟩ .short
          (chainedTables.performAll [.assignment ⟨1⟩ .short] .initial).2) := by
  decide

end BindingTables

end DialectBinder
