import DialectBinder.Proofs.BindingEffects
import Mathlib.Data.Option.Basic

/-! What it comes to when arguments are bound to a candidate for good. If the candidate takes them,
the bindings are those by which it was compared with the others, and just the marks of the values
passed are left. If it does not, nothing is bound; yet with a parameter array some marks may be
left. -/

namespace DialectBinder

namespace Classifier

section Forms

variable (classifier : Classifier) (candidate : Member) (arguments : List Argument)

/-- There is a parameter for each argument, and each argument converts to its own. -/
def FitsAsWritten : Prop :=
  candidate.parameters.length = arguments.length ∧
    ∀ position ∈ arguments.zip candidate.parameters, classifier.converts position = true

/-- The parameters of a candidate, with an element of the parameter array for each argument that is
left. -/
def ExpandsTo (parameters : List Parameter) : Prop :=
  ∃ fixed tail element, candidate.parameters = fixed ++ [tail] ∧ tail.variadic = true ∧
    fixed.length ≤ arguments.length ∧ classifier.types.element? tail.type = some element ∧
    parameters = fixed ++ List.replicate (arguments.length - fixed.length) { type := element }

variable {classifier candidate arguments}

theorem expandedForm?_eq_some_iff {parameters : List Parameter} :
    classifier.expandedForm? candidate arguments = some parameters ↔
      classifier.ExpandsTo candidate arguments parameters := by
  simp only [expandedForm?, Member.variadicTail?, Option.bind_eq_bind, Option.bind_eq_some_iff,
    Option.filter_eq_some_iff, Option.guard_eq_some', Option.pure_def, Option.some.injEq]
  constructor
  · rintro ⟨tail, ⟨last, variadic⟩, _, short, element, ofTail, rfl⟩
    obtain ⟨fixed, listed⟩ := List.getLast?_eq_some_iff.mp last
    simp only [listed, List.dropLast_concat] at short ⊢
    exact ⟨fixed, tail, element, listed, variadic, short, ofTail, rfl⟩
  · rintro ⟨fixed, tail, element, listed, variadic, short, ofTail, rfl⟩
    simp only [listed, List.dropLast_concat, List.getLast?_concat]
    exact ⟨tail, ⟨rfl, variadic⟩, (), short, element, ofTail, rfl⟩

theorem bindForm?_isSome_iff {parameters : List Parameter} :
    (classifier.bindForm? arguments parameters).isSome = true ↔
      ∀ position ∈ arguments.zip parameters, classifier.converts position = true := by
  rw [bindForm?_eq, ← List.all_eq_true]
  split <;> simp_all

theorem chosenForm?_of_fits (fits : classifier.FitsAsWritten candidate arguments) :
    classifier.chosenForm? candidate arguments = some candidate.parameters := by
  obtain ⟨equal, convert⟩ := fits
  have binds := bindForm?_isSome_iff.mpr convert
  simp [chosenForm?, normalForm?, equal, Option.filter_some, binds]

theorem chosenForm?_of_not_fits (misfit : ¬classifier.FitsAsWritten candidate arguments) :
    classifier.chosenForm? candidate arguments = classifier.expandedForm? candidate arguments := by
  unfold chosenForm?
  split
  · rename_i parameters written
    obtain ⟨normal, binds⟩ := Option.filter_eq_some_iff.mp written
    simp only [normalForm?, beq_iff_eq, Option.ite_none_right_eq_some, Option.some.injEq] at normal
    obtain ⟨equal, rfl⟩ := normal
    exact absurd ⟨equal, bindForm?_isSome_iff.mp binds⟩ misfit
  · rfl

theorem ExpandsTo.length_eq {parameters : List Parameter}
    (expands : classifier.ExpandsTo candidate arguments parameters) :
    parameters.length = arguments.length := by
  obtain ⟨fixed, _, _, _, _, short, _, rfl⟩ := expands
  rw [List.length_append, List.length_replicate]
  omega

/-- Either form has a parameter for each argument. -/
theorem length_of_chosenForm? {parameters : List Parameter}
    (chosen : classifier.chosenForm? candidate arguments = some parameters) :
    parameters.length = arguments.length := by
  by_cases fits : classifier.FitsAsWritten candidate arguments
  · rw [chosenForm?_of_fits fits] at chosen
    rw [← Option.some.inj chosen]
    exact fits.1
  · rw [chosenForm?_of_not_fits fits] at chosen
    exact (expandedForm?_eq_some_iff.mp chosen).length_eq

theorem bindArguments?_eq_some_iff {bindings : List ArgumentBinding} :
    classifier.bindArguments? candidate arguments = some bindings ↔
      ∃ parameters, classifier.chosenForm? candidate arguments = some parameters ∧
        (∀ position ∈ arguments.zip parameters, classifier.converts position = true) ∧
        bindings = (arguments.zip parameters).map classifier.bindingAt := by
  simp only [bindArguments?, Option.bind_eq_some_iff, bindForm?_eq, Option.ite_none_right_eq_some,
    Option.some.injEq, List.all_eq_true, eq_comm (a := bindings)]

end Forms

section Positions

variable (classifier : Classifier)

def passesReference (position : Argument × Parameter) : Bool :=
  position.2.passing.isByReference || position.1.passing.isByReference

/-- The question for the conversion of a value that is passed to a parameter. -/
def valueQuery (position : Argument × Parameter) : ConversionQuery :=
  ⟨position.1.expr, position.1.type, position.2.type⟩

variable {classifier} {position : Argument × Parameter}

theorem identity_of_passesReference (reference : passesReference position = true)
    (converts : classifier.converts position = true) :
    (classifier.bindingAt position).conversion = .identity ∧ position.1.type = position.2.type := by
  unfold passesReference at reference
  unfold Classifier.converts at converts
  unfold bindingAt
  simp only [argumentOutcome, reference, ↓reduceIte] at converts ⊢
  split
  · rename_i agrees
    exact ⟨rfl, beq_iff_eq.mp (Bool.and_eq_true_iff.mp agrees).2⟩
  · rename_i disagrees
    rw [if_neg disagrees] at converts
    cases converts

theorem unmarked_of_passesReference (reference : passesReference position = true) :
    (classifier.argumentOutcome position.1 position.2).annotations = {} := by
  unfold passesReference at reference
  simp only [argumentOutcome, reference, ↓reduceIte]
  split <;> rfl

theorem argumentOutcome_of_value (value : passesReference position = false) :
    classifier.argumentOutcome position.1 position.2 =
      (classifier.classify (valueQuery position)).toConversionOutcome := by
  unfold passesReference at value
  simp only [argumentOutcome, value, Bool.false_eq_true, ↓reduceIte]
  rfl

end Positions

section Taken

variable (classifier : Classifier)

/-- The pending marks of the values among the arguments: each on the expression of its argument, and
the advice among them on the assignment around it. -/
def valueMarks (arguments : List Argument) (bindings : List ArgumentBinding) :
    List (ExprId × Annotations) :=
  ((arguments.zip bindings).filter fun pair =>
      !passesReference (pair.1, pair.2.parameter)).flatMap fun pair =>
    classifier.marksOf pair.1.expr
      (classifier.classify (valueQuery (pair.1, pair.2.parameter))).annotations

variable {classifier} {arguments : List Argument}

theorem zip_bindings (parameters : List Parameter) :
    arguments.zip ((arguments.zip parameters).map classifier.bindingAt) =
      (arguments.zip parameters).map fun position =>
      (position.1, classifier.bindingAt position) := by
  induction arguments generalizing parameters with
  | nil => rfl
  | cons argument arguments ih =>
    cases parameters with
    | nil => rfl
    | cons parameter parameters => simp only [List.zip_cons_cons, List.map_cons, ih]

theorem exists_position_of_mem {parameters : List Parameter} {pair : Argument × ArgumentBinding}
    (member : pair ∈ arguments.zip ((arguments.zip parameters).map classifier.bindingAt)) :
    ∃ position ∈ arguments.zip parameters, (position.1, classifier.bindingAt position) = pair := by
  rw [zip_bindings] at member
  exact List.mem_map.mp member

theorem marksOf_empty (expr : Option ExprId) :
    ∀ mark ∈ classifier.marksOf expr {}, mark.2 = {} := by
  cases expr with
  | none => simp [marksOf]
  | some source =>
    cases classifier.exprs.enclosingAssignment? source <;> simp [marksOf, Annotations.warnings, *]

/-- What is passed by reference leaves no mark, so the marks of all arguments are those of the
values. -/
theorem markAll_argumentMarks (parameters : List Parameter) (table : AnnotationTable) :
    table.markAll (classifier.argumentMarks arguments parameters) =
      table.markAll
        (classifier.valueMarks arguments
          ((arguments.zip parameters).map classifier.bindingAt)) := by
  have values : classifier.valueMarks arguments
      ((arguments.zip parameters).map classifier.bindingAt) =
      ((arguments.zip parameters).filter fun position =>
        !passesReference position).flatMap classifier.marksAt := by
    rw [valueMarks, zip_bindings, List.filter_map, List.flatMap_map]
    apply List.flatMap_congr
    intro position member
    have kept : (!passesReference position) = true := (List.mem_filter.mp member).2
    have value : passesReference position = false := by simpa using kept
    rw [marksAt, argumentOutcome_of_value value]
    rfl
  rw [values, AnnotationTable.markAll_flatMap_filter]
  · rfl
  · intro position idle
    have reference : passesReference position = true := by simpa using idle
    rw [marksAt, unmarked_of_passesReference reference]
    exact marksOf_empty position.1.expr

theorem commitArguments_of_converts {candidate : Member} {parameters : List Parameter}
    (chosen : classifier.chosenForm? candidate arguments = some parameters)
    (convert : ∀ position ∈ arguments.zip parameters, classifier.converts position = true)
    (table : AnnotationTable) :
    classifier.commitArguments table candidate arguments =
      ((arguments.zip parameters).map classifier.bindingAt,
        table.markAll
          (classifier.valueMarks arguments
            ((arguments.zip parameters).map classifier.bindingAt))) := by
  have bound : classifier.bindForm? arguments parameters =
      some ((arguments.zip parameters).map classifier.bindingAt) := by
    rw [bindForm?_eq, if_pos (List.all_eq_true.mpr convert)]
  have marked := classifier.commitForm_eq_markAll arguments parameters (by rw [bound]; rfl) table
  simp only [commitArguments, chosen, bound, marked, Option.getD_some, markAll_argumentMarks]

theorem parameters_of_bindings {parameters : List Parameter}
    (same : parameters.length = arguments.length) :
    ((arguments.zip parameters).map classifier.bindingAt).map (·.parameter) = parameters := by
  rw [List.map_map]
  exact List.map_snd_zip (Nat.le_of_eq same)

end Taken

section Failed

variable (classifier : Classifier) (candidate : Member) (arguments : List Argument)

/-- The marks of the arguments before the first that does not convert to its parameter, where the
parameter array is expanded. -/
def strayMarks : List (ExprId × Annotations) :=
  match classifier.expandedForm? candidate arguments with
  | some parameters =>
    ((arguments.zip parameters).takeWhile classifier.converts).flatMap classifier.marksAt
  | none => []

variable {classifier candidate arguments}

theorem isApplicable_of_fits (fits : classifier.FitsAsWritten candidate arguments) :
    classifier.isApplicable candidate arguments = true := by
  have probed := bindArguments?_eq_some_iff.mpr ⟨_, chosenForm?_of_fits fits, fits.2, rfl⟩
  rw [isApplicable, probed]
  rfl

/-- An attempt that fails binds nothing, but it has been carried out up to the argument at which it
fails. -/
theorem commitArguments_of_fails (fails : classifier.isApplicable candidate arguments = false)
    (table : AnnotationTable) :
    classifier.commitArguments table candidate arguments =
      ([], table.markAll (classifier.strayMarks candidate arguments)) := by
  have misfit : ¬classifier.FitsAsWritten candidate arguments := by
    intro fits
    rw [isApplicable_of_fits fits] at fails
    cases fails
  apply Prod.ext
  · have unbound : classifier.bindArguments? candidate arguments = none := by
      simpa [isApplicable] using fails
    rw [commitArguments_bindings, unbound, Option.getD_none]
  · unfold commitArguments strayMarks
    rw [chosenForm?_of_not_fits misfit]
    cases classifier.expandedForm? candidate arguments with
    | none => rfl
    | some parameters => exact classifier.commitForm_eq arguments parameters table

theorem marksAt_empty_iff {position : Argument × Parameter} :
    (∀ mark ∈ classifier.marksAt position, mark.2 = {}) ↔
      (position.1.expr.isSome = true →
        (classifier.argumentOutcome position.1 position.2).annotations = {}) := by
  unfold marksAt
  cases position.1.expr with
  | none => simp [marksOf]
  | some source =>
    constructor
    · intro empty _
      exact empty (source, _) (by simp [marksOf])
    · intro pending
      rw [pending rfl]
      exact marksOf_empty (some source)

/-- Nothing is left behind if no argument that is reached has a mark to leave. -/
theorem strayMarks_empty_iff :
    (∀ mark ∈ classifier.strayMarks candidate arguments, mark.2 = {}) ↔
      ∀ parameters, classifier.ExpandsTo candidate arguments parameters →
        ∀ position ∈ (arguments.zip parameters).takeWhile classifier.converts,
          position.1.expr.isSome = true →
          (classifier.argumentOutcome position.1 position.2).annotations = {} := by
  simp only [← expandedForm?_eq_some_iff, ← marksAt_empty_iff, strayMarks]
  cases classifier.expandedForm? candidate arguments with
  | none => simp
  | some parameters =>
    simp only [List.mem_flatMap, Option.some.injEq, forall_eq']
    constructor
    · intro empty position reached mark member
      exact empty mark ⟨position, reached, member⟩
    · rintro empty mark ⟨position, reached, member⟩
      exact empty position reached mark member

/-- A candidate that does not take the arguments binds none of them. What is left on the expressions
are the marks of the arguments before the first that does not convert in the expanded form. So the
annotations stay as they are exactly if these marks are there already, and in every case exactly if
there are none; this is so for a candidate without a parameter array. -/
theorem failed_commit_characterised (fails : classifier.isApplicable candidate arguments = false) :
    (∀ table, classifier.commitArguments table candidate arguments =
      ([], table.markAll (classifier.strayMarks candidate arguments))) ∧
    (∀ table, classifier.commitArguments table candidate arguments = ([], table) ↔
      ∀ mark ∈ classifier.strayMarks candidate arguments,
        (table.get mark.1).includes mark.2 = true) ∧
    ((∀ table, classifier.commitArguments table candidate arguments = ([], table)) ↔
      ∀ parameters, classifier.ExpandsTo candidate arguments parameters →
        ∀ position ∈ (arguments.zip parameters).takeWhile classifier.converts,
          position.1.expr.isSome = true →
          (classifier.argumentOutcome position.1 position.2).annotations = {}) ∧
    (candidate.variadicTail? = none →
      ∀ table, classifier.commitArguments table candidate arguments = ([], table)) := by
  have unchanged (table : AnnotationTable) :
      classifier.commitArguments table candidate arguments = ([], table) ↔
      ∀ mark ∈ classifier.strayMarks candidate arguments,
        (table.get mark.1).includes mark.2 = true := by
    rw [commitArguments_of_fails fails, Prod.mk.injEq, AnnotationTable.markAll_eq_self_iff]
    exact and_iff_right rfl
  refine ⟨commitArguments_of_fails fails, unchanged, ?_, ?_⟩
  · rw [← strayMarks_empty_iff]
    constructor
    · intro always mark member
      exact Annotations.empty_includes_iff.mp ((unchanged .empty).mp (always .empty) mark member)
    · intro empty table
      apply (unchanged table).mpr
      intro mark member
      rw [empty mark member, Annotations.includes_empty]
  · intro plain table
    have unstrayed : classifier.strayMarks candidate arguments = [] := by
      simp [strayMarks, expandedForm?, plain]
    rw [unchanged, unstrayed]
    intro mark member
    cases member

def shortArrays : TypeTable := ((TypeTable.ofPointerSize 8).arrayOf .short).1

/-- A procedure that takes any number of `SHORT` values. -/
def fill : Member :=
  { symbol := ⟨1⟩, name := "Fill", container := "Functions",
    parameters := [{ type := ⟨33⟩, variadic := true }] }

/-- A variable of 64 bits, where numbers convert to narrower ones. -/
def wideVariable : Classifier where
  types := shortArrays
  exprs := ⟨#[{ kind := .variableAccess none, type := .int64 }]⟩
  options := (Options.forDialect .vo).withPragma .arithmeticConversions true

def wideThenText : List Argument := [.ofExpr wideVariable.exprs ⟨0⟩, { type := .string }]

/-- An attempt to fill with the variable and a text leaves things as they are only where the
variable is marked already. -/
theorem fill_leaves_marked_variable :
    wideVariable.isApplicable fill wideThenText = false ∧
      wideVariable.commitArguments (AnnotationTable.empty.mark ⟨0⟩ { narrowing := true })
        fill wideThenText =
        ([], AnnotationTable.empty.mark ⟨0⟩ { narrowing := true }) := by
  have fails : wideVariable.isApplicable fill wideThenText = false := by decide +kernel
  obtain ⟨_, unchanged, _, _⟩ := failed_commit_characterised fails
  exact ⟨fails, (unchanged _).mpr (by decide +kernel)⟩

/-- The text is no `SHORT`, so the procedure does not take the two arguments; but the variable has
been marked. -/
theorem failed_commit_marks_variable :
    wideVariable.isApplicable fill wideThenText = false ∧
      (wideVariable.commitArguments .empty fill wideThenText).1 = [] ∧
      (wideVariable.commitArguments .empty fill wideThenText).2.get ⟨0⟩ = { narrowing := true } ∧
      (wideVariable.commitArguments .empty fill wideThenText).2 ≠ .empty := by
  have marked : (wideVariable.commitArguments .empty fill wideThenText).2.get ⟨0⟩ =
      { narrowing := true } := by
    decide +kernel
  refine ⟨by decide +kernel, by decide +kernel, marked, ?_⟩
  intro unchanged
  rw [unchanged] at marked
  exact absurd marked (by decide)

end Failed

end Classifier

namespace OverloadResolver

open Classifier (passesReference valueQuery)

/-- What it means that arguments are bound for good as they were when candidates were compared. -/
structure CommitAgrees (resolver : OverloadResolver) (candidates : List Member)
    (arguments : List Argument) (place : Nat) (candidate : Member) (bindings : List ArgumentBinding)
    (before after : AnnotationTable) :
    Prop where
  /-- The bindings are those by which the candidate was compared with the others. -/
  ranked : ⟨place, candidate, bindings⟩ ∈ resolver.applicable candidates arguments
  oneEach : bindings.length = arguments.length
  possible : ∀ binding ∈ bindings, binding.conversion ≠ .noConversion
  written : resolver.classifier.FitsAsWritten candidate arguments →
    bindings.map (·.parameter) = candidate.parameters
  expanded : ¬resolver.classifier.FitsAsWritten candidate arguments →
    resolver.classifier.ExpandsTo candidate arguments (bindings.map (·.parameter))
  reference : ∀ pair ∈ arguments.zip bindings, passesReference (pair.1, pair.2.parameter) = true →
    pair.2.conversion = .identity ∧ pair.1.type = pair.2.parameter.type
  value : ∀ pair ∈ arguments.zip bindings, passesReference (pair.1, pair.2.parameter) = false →
    pair.2.conversion = resolver.classifier.implicit (valueQuery (pair.1, pair.2.parameter))
  /-- The marks of the values are joined to those that were there, and nothing else is. -/
  marked : after = before.markAll (resolver.classifier.valueMarks arguments bindings)
  answers : ∀ expr, after.get expr =
    (before.get expr).union
      (AnnotationTable.flagsAt expr (resolver.classifier.valueMarks arguments bindings))

variable {resolver : OverloadResolver} {candidates : List Member}
    {arguments : List Argument} {place : Nat}
  {candidate : Member}

theorem commitAgrees_of_isApplicable (present : candidates[place]? = some candidate)
    (takes : resolver.classifier.isApplicable candidate arguments = true)
    (before : AnnotationTable) :
    resolver.CommitAgrees candidates arguments place candidate
      (resolver.classifier.commitArguments before candidate arguments).1 before
      (resolver.classifier.commitArguments before candidate arguments).2 := by
  obtain ⟨bindings, probed⟩ := Option.isSome_iff_exists.mp takes
  obtain ⟨parameters, chosen, convert, rfl⟩ := Classifier.bindArguments?_eq_some_iff.mp probed
  have same := Classifier.length_of_chosenForm? chosen
  rw [Classifier.commitArguments_of_converts chosen convert]
  refine
    { ranked := mem_applicable.mpr (candidateAt?_eq_some_iff.mpr ⟨rfl, present, probed⟩)
      oneEach := ?_, possible := ?_, written := ?_, expanded := ?_, reference := ?_, value := ?_
      marked := rfl
      answers := before.get_markAll _ }
  · simp [same]
  · intro binding member
    obtain ⟨position, bound, rfl⟩ := List.mem_map.mp member
    exact bne_iff_ne.mp (convert position bound)
  · intro fits
    rw [Classifier.chosenForm?_of_fits fits] at chosen
    rw [Classifier.parameters_of_bindings same, Option.some.inj chosen]
  · intro misfit
    rw [Classifier.chosenForm?_of_not_fits misfit] at chosen
    rw [Classifier.parameters_of_bindings same]
    exact Classifier.expandedForm?_eq_some_iff.mp chosen
  · intro pair member reference
    obtain ⟨position, bound, rfl⟩ := Classifier.exists_position_of_mem member
    exact Classifier.identity_of_passesReference reference (convert position bound)
  · intro pair member value
    obtain ⟨position, _, rfl⟩ := Classifier.exists_position_of_mem member
    exact congrArg ConversionOutcome.conversion (Classifier.argumentOutcome_of_value value)

/-- Arguments are bound for good as they were bound for the comparison of the candidates. This holds
of every candidate that takes the arguments, and so of the one that a call goes to, also where the
call is ambiguous. -/
theorem commit_agrees_with_probe :
    (∀ (resolver : OverloadResolver) (candidates : List Member) (arguments : List Argument)
      (place : Nat) (candidate : Member) (before : AnnotationTable),
      candidates[place]? = some candidate →
      resolver.classifier.isApplicable candidate arguments = true →
        resolver.CommitAgrees candidates arguments place candidate
          (resolver.classifier.commitArguments before candidate arguments).1 before
          (resolver.classifier.commitArguments before candidate arguments).2) ∧
    ∀ (tables : BindingTables) (call : Invocation) (state : BindingState) (symbol : SymbolId),
      (tables.bindInvocation call state).1.symbol = some symbol →
        ∃ place candidate bindings,
          tables.resolver.resolve (tables.overloads call) call.arguments =
            (tables.bindInvocation call state).1.resolution ∧
          (tables.bindInvocation call state).1.resolution.place? = some place ∧
          (tables.overloads call)[place]? = some candidate ∧ candidate.symbol = symbol ∧
          (tables.bindInvocation call state).1.conversions = bindings.map (·.conversion) ∧
          tables.resolver.CommitAgrees
            (tables.overloads call) call.arguments place candidate bindings
            state.annotations (tables.bindInvocation call state).2.annotations := by
  refine ⟨fun _ _ _ _ _ before present takes =>
    commitAgrees_of_isApplicable present takes before, ?_⟩
  intro tables call state symbol bound
  cases goes : tables.callee? call with
  | none => simp [tables.bindInvocation_callee, goes, BoundInvocation.unbound] at bound
  | some member =>
    obtain ⟨place, chosen, present⟩ := tables.callee?_place goes
    have takes := tables.callee?_applicable goes
    simp only [tables.bindInvocation_callee, goes] at bound ⊢
    exact ⟨place, member, _, rfl, chosen, present, Option.some.inj bound, rfl,
      commitAgrees_of_isApplicable present takes state.annotations⟩

/-- A procedure that takes the address of a `LONG`, and then any number of `SHORT` values. -/
def load : Member :=
  { symbol := ⟨1⟩, name := "Load", container := "Functions",
    parameters := [{ type := .long, passing := .byRef }, { type := ⟨33⟩, variadic := true }] }

/-- The expressions of `target := wide`, and an import of the procedure. -/
def loadTables : BindingTables where
  types := Classifier.shortArrays
  symbols :=
    let functions := (SymbolArena.mk #[]).alloc { name := "Functions", flags := .classType }
    functions.declareMember ⟨0⟩ { name := "Load", flags := .union .method .static }
  scopes := ((ScopeArena.mk #[]).add .namespaceBody none none).importStatic ⟨0⟩ ⟨0⟩
  assemblies := .ofCurrent "App"
  exprs := ⟨#[
    { kind := .variableAccess none, type := .long, parent := some ⟨2⟩ },
    { kind := .variableAccess none, type := .int64, parent := some ⟨2⟩ },
    { kind := .assignment ⟨0⟩ ⟨1⟩, type := .long }]⟩
  signatures := ⟨[load]⟩
  options := (Options.forDialect .vo).withPragma .arithmeticConversions true
  file := "load.prg"

/-- The call `Load(target, wide)`. -/
def loadCall : Invocation :=
  { name := "Load", scope := ⟨0⟩,
    arguments := [.ofExpr loadTables.exprs ⟨0⟩, .ofExpr loadTables.exprs ⟨1⟩] }

/-- The address of `target` is passed and `wide` is narrowed, which marks it and the assignment
around it; each as when the candidate was tried. -/
theorem load_commits_as_probed :
    (loadTables.bindInvocation loadCall .initial).1.conversions = [.identity, .implicitNumeric] ∧
      (loadTables.bindInvocation loadCall .initial).2.annotations.entries =
        [(⟨1⟩, { narrowing := true }), (⟨2⟩, { narrowing := true })] ∧
      loadTables.resolver.CommitAgrees [load] loadCall.arguments 0 load
        (loadTables.classifier.commitArguments .empty load loadCall.arguments).1 .empty
        (loadTables.classifier.commitArguments .empty load loadCall.arguments).2 ∧
      ∃ place candidate bindings,
        (loadTables.bindInvocation loadCall .initial).1.conversions = bindings.map (·.conversion) ∧
          loadTables.resolver.CommitAgrees
            (loadTables.overloads loadCall) loadCall.arguments place candidate bindings
            .empty (loadTables.bindInvocation loadCall .initial).2.annotations := by
  obtain ⟨probed, called⟩ := commit_agrees_with_probe
  have takes : loadTables.resolver.classifier.isApplicable load loadCall.arguments =
      true := by decide +kernel
  obtain ⟨place, candidate, bindings, _, _, _, _, converted, agrees⟩ :=
    called loadTables loadCall .initial ⟨1⟩ (by decide +kernel)
  refine ⟨by decide +kernel, by decide +kernel, ?_, place, candidate, bindings, converted, agrees⟩
  exact probed loadTables.resolver [load] loadCall.arguments 0 load .empty rfl takes

end OverloadResolver

end DialectBinder
