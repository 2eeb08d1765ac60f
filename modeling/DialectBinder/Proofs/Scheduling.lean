import DialectBinder.Proofs.BindingEffects
import Mathlib.Logic.Relation

/-! Binding may be scheduled in any way. No answer depends on what was bound before, and marks only
join, so that all orders of the tasks, and all ways to share them out among workers, end in the same
table. -/

namespace DialectBinder

/-- A worker with diagnostics of its own: what it has still to bind, and what it has answered. -/
structure Worker where
  remaining : List BindingTask
  answers : List BindingAnswer := []
  diagnostics : DiagnosticBag := {}

/-- Workers that share one annotation table. -/
structure Crew where
  workers : List Worker
  annotations : AnnotationTable

namespace Crew

/-- One of the workers binds the next of its tasks. -/
inductive Step (tables : BindingTables) : Crew → Crew → Prop where
  | turn (before after : List Worker) (task : BindingTask) (rest : List BindingTask)
      (answers : List BindingAnswer) (diagnostics : DiagnosticBag) (annotations : AnnotationTable)
      (answer : BindingAnswer) (next : BindingState)
      (performed : tables.perform task ⟨annotations, diagnostics⟩ = (answer, next)) :
      Step tables ⟨before ++ ⟨task :: rest, answers, diagnostics⟩ :: after, annotations⟩
        ⟨before ++ ⟨rest, answers ++ [answer], next.diagnostics⟩ :: after, next.annotations⟩

def IsDone (crew : Crew) : Prop := ∀ worker ∈ crew.workers, worker.remaining = []

variable (tables : BindingTables)

/-- All answers of each worker, those it has still to give among them. -/
def allAnswers (crew : Crew) : List (List BindingAnswer) :=
  crew.workers.map fun worker => worker.answers ++ worker.remaining.map tables.answer

def remainingMarks (crew : Crew) : List (ExprId × Annotations) :=
  (crew.workers.flatMap (·.remaining)).flatMap tables.marks

variable {tables}

/-- A turn gives an answer that was to be given, and leaves marks that were to be left. -/
theorem Step.preserves {crew next : Crew} (step : Step tables crew next) :
    next.allAnswers tables = crew.allAnswers tables ∧
      next.annotations.markAll (next.remainingMarks tables) =
        crew.annotations.markAll (crew.remainingMarks tables) := by
  obtain ⟨before, after, task, rest, answers, diagnostics, annotations, answer, state, performed⟩ :=
    step
  have given : tables.answer task = answer := by
    rw [← tables.perform_answer task ⟨annotations, diagnostics⟩, performed]
  have marked : state.annotations = annotations.markAll (tables.marks task) := by
    rw [← tables.perform_annotations task ⟨annotations, diagnostics⟩, performed]
  constructor
  · simp [allAnswers, given]
  · simp only [remainingMarks, marked, List.flatMap_append, List.flatMap_cons, List.cons_append]
    rw [← AnnotationTable.markAll_append]
    apply AnnotationTable.markAll_perm
    -- The marks of the task move to the front, past those of the workers before it.
    exact List.perm_append_comm_assoc _ _ _

theorem exists_step (tables : BindingTables) {crew : Crew} {worker : Worker}
    (member : worker ∈ crew.workers) (busy : worker.remaining ≠ []) :
    ∃ next, Step tables crew next ∧
      (next.workers.flatMap (·.remaining)).length <
      (crew.workers.flatMap (·.remaining)).length := by
  obtain ⟨workers, annotations⟩ := crew
  obtain ⟨before, after, rfl⟩ := List.append_of_mem member
  obtain ⟨remaining, answers, diagnostics⟩ := worker
  obtain ⟨task, rest, rfl⟩ := List.exists_cons_of_ne_nil busy
  refine ⟨_, .turn before after task rest answers diagnostics annotations _ _ rfl, ?_⟩
  simp

/-- Whatever turns are taken, all tasks can be done. -/
theorem exists_done_run (tables : BindingTables) (crew : Crew) :
    ∃ last, Relation.ReflTransGen (Step tables) crew last ∧ last.IsDone := by
  -- Every turn leaves fewer tasks.
  induction left :
    (crew.workers.flatMap (·.remaining)).length using Nat.strongRecOn generalizing crew with
  | ind count ih =>
    by_cases done : crew.IsDone
    · exact ⟨crew, .refl, done⟩
    · obtain ⟨worker, member, busy⟩ : ∃ worker ∈ crew.workers, worker.remaining ≠ [] := by
        simpa [IsDone] using done
      obtain ⟨next, step, fewer⟩ := exists_step tables member busy
      obtain ⟨last, run, finished⟩ := ih _ (left ▸ fewer) next rfl
      exact ⟨last, .head step run, finished⟩

theorem run_preserves {crew last : Crew} (run : Relation.ReflTransGen (Step tables) crew last) :
    last.allAnswers tables = crew.allAnswers tables ∧
      last.annotations.markAll (last.remainingMarks tables) =
        crew.annotations.markAll (crew.remainingMarks tables) := by
  induction run with
  | refl => exact ⟨rfl, rfl⟩
  | tail _ step ih =>
    obtain ⟨answers, annotations⟩ := step.preserves
    exact ⟨answers.trans ih.1, annotations.trans ih.2⟩

theorem IsDone.allAnswers_eq {crew : Crew} (done : crew.IsDone) :
    crew.allAnswers tables = crew.workers.map (·.answers) := by
  apply List.map_congr_left
  intro worker member
  simp [done worker member]

theorem IsDone.remainingMarks_eq {crew : Crew} (done : crew.IsDone) :
    crew.remainingMarks tables = [] := by
  have nothing : crew.workers.flatMap (·.remaining) = [] := List.flatMap_eq_nil_iff.mpr done
  simp [remainingMarks, nothing]

end Crew

namespace BindingTables

/-- In whichever order tasks are bound, one after the other or by several workers in turn, each gets
the answer it gets on its own. The table ends up as the one at the start with the marks of all tasks
joined. -/
theorem binding_unaffected_by_schedule (tables : BindingTables) (tasks : List BindingTask)
    (start : AnnotationTable) :
    (∀ order diagnostics, order.Perm tasks →
      (tables.performAll order ⟨start, diagnostics⟩).1 = order.map tables.answer ∧
      (tables.performAll order ⟨start, diagnostics⟩).2.annotations =
        start.markAll (tasks.flatMap tables.marks)) ∧
    (∀ crew : Crew, crew.annotations = start → (crew.workers.flatMap (·.remaining)).Perm tasks →
      (∃ last, Relation.ReflTransGen (Crew.Step tables) crew last ∧ last.IsDone) ∧
      ∀ last, Relation.ReflTransGen (Crew.Step tables) crew last → last.IsDone →
        last.workers.map (·.answers) =
          crew.workers.map (fun worker => worker.answers ++ worker.remaining.map tables.answer) ∧
        last.annotations = start.markAll (tasks.flatMap tables.marks)) ∧
    (∀ expr, (start.markAll (tasks.flatMap tables.marks)).get expr =
      (start.get expr).union (AnnotationTable.flagsAt expr (tasks.flatMap tables.marks))) := by
  refine ⟨?_, ?_, start.get_markAll (tasks.flatMap tables.marks)⟩
  · intro order diagnostics reordered
    refine ⟨tables.performAll_answers order _, ?_⟩
    rw [performAll_annotations]
    exact start.markAll_perm (reordered.flatMap_right tables.marks)
  · rintro crew rfl shared
    refine ⟨Crew.exists_done_run tables crew, ?_⟩
    intro last run done
    obtain ⟨answers, annotations⟩ := Crew.run_preserves run
    rw [done.allAnswers_eq] at answers
    rw [done.remainingMarks_eq, AnnotationTable.markAll_nil] at annotations
    exact ⟨answers,
      annotations.trans (crew.annotations.markAll_perm (shared.flatMap_right tables.marks))⟩

/-- A free function `Store` that takes an unsigned number, and a signed variable that is assigned as
well. -/
def storeTables : BindingTables where
  types := .ofPointerSize 8
  symbols :=
    ((SymbolArena.mk #[]).alloc { name := "Functions", flags := .classType }).declareMember ⟨0⟩
    { name := "Store", flags := .union .method .static }
  scopes := ((ScopeArena.mk #[]).add .namespaceBody none none).importStatic ⟨0⟩ ⟨0⟩
  assemblies := .ofCurrent "App"
  exprs := ⟨#[
    { kind := .variableAccess none, type := .long, parent := some ⟨2⟩ },
    { kind := .variableAccess none, type := .int64, parent := some ⟨2⟩ },
    { kind := .assignment ⟨0⟩ ⟨1⟩, type := .long }]⟩
  signatures :=
    ⟨[{ symbol := ⟨1⟩, name := "Store", container := "Functions",
        parameters := [{ type := .uint64 }] }]⟩
  options := (Options.forDialect .vo).withFlags [.signedUnsignedConversion, .arithmeticConversions]
  file := "store.prg"

/-- The call `Store(wide)`, written in capitals. -/
def storeCall : BindingTask :=
  .invocation { name := "STORE", scope := ⟨0⟩, arguments := [.ofExpr storeTables.exprs ⟨1⟩] }

def storeAssignment : BindingTask := .assignment ⟨1⟩ .long

/-- A worker for the call and one for the assignment. -/
def storeCrew : Crew where
  workers := [{ remaining := [storeCall] }, { remaining := [storeAssignment] }]
  annotations := .empty

/-- The call and the assignment each mark the variable and the assignment around it. In either
order, and with a worker for each, both end up with both pieces of advice. -/
theorem store_schedules_agree :
    storeTables.answer storeCall = .invocation ⟨some ⟨1⟩, .success 0 false false, [.identity]⟩ ∧
      storeTables.answer storeAssignment = .assignment .implicitNumeric ∧
      [storeAssignment, storeCall].Perm [storeCall, storeAssignment] ∧
      (storeTables.performAll [storeAssignment, storeCall] .initial).1 =
        [storeTables.answer storeAssignment, storeTables.answer storeCall] ∧
      (storeTables.performAll [storeAssignment, storeCall] .initial).2.annotations.entries =
        [(⟨1⟩, { signChange := true, narrowing := true }),
          (⟨2⟩, { signChange := true, narrowing := true })] ∧
      ∃ last, Relation.ReflTransGen (Crew.Step storeTables) storeCrew last ∧ last.IsDone ∧
        last.workers.map (·.answers) = [[storeTables.answer storeCall],
          [storeTables.answer storeAssignment]] ∧
        last.annotations.entries =
          [(⟨1⟩, { signChange := true, narrowing := true }),
            (⟨2⟩, { signChange := true, narrowing := true })] := by
  obtain ⟨sequential, concurrent, _⟩ :=
    storeTables.binding_unaffected_by_schedule [storeCall, storeAssignment] .empty
  have swapped : [storeAssignment, storeCall].Perm [storeCall, storeAssignment] := .swap ..
  obtain ⟨answers, annotations⟩ := sequential [storeAssignment, storeCall] {} swapped
  obtain ⟨⟨last, run, done⟩, agree⟩ := concurrent storeCrew rfl (.refl _)
  obtain ⟨given, shared⟩ := agree last run done
  have joined :
      (AnnotationTable.empty.markAll
        ([storeCall, storeAssignment].flatMap storeTables.marks)).entries =
      [(⟨1⟩, { signChange := true, narrowing := true }),
        (⟨2⟩, { signChange := true, narrowing := true })] := by
    decide
  refine ⟨by decide, by decide, swapped, answers, ?_, last, run, done, given, ?_⟩
  · exact (congrArg AnnotationTable.entries annotations).trans joined
  · rw [shared]
    exact joined

end BindingTables

end DialectBinder
