import DialectBinder.Proofs.Displacement
import DialectBinder.Proofs.InvocationOutcome
import DialectBinder.Proofs.Retry
import Mathlib.Data.List.Nodup
import Mathlib.Data.List.ProdSigma

/-! How free functions and the result of the walk are reconciled. One of the two is taken as a
whole. Where it is the result of the walk, a warning tells of each function that was passed over and
each method that was chosen. -/

namespace DialectBinder

/-- Whether the diagnostic says that a method was chosen although a function was there. -/
def Diagnostic.isFunctionWarning (diagnostic : Diagnostic) : Bool :=
  diagnostic.code == Message.functionOrMethod.code

namespace LookupContext

variable (context : LookupContext) (request : LookupRequest)

/-- The free functions that the walk did not find, each with every method that it did. -/
def passedOver : List (SymbolId × SymbolId) :=
  ((context.freeFunctions request).filter fun id => !(context.walked request).contains id).product
    ((context.walked request).symbols.filter context.symbols.isMethod)

def functionWarning (place : ReportPlace) (pair : SymbolId × SymbolId) : Diagnostic :=
  .ofMessage place.file place.span .functionOrMethod
    [request.name, context.symbols.qualifiedName pair.1, context.symbols.qualifiedName pair.2]

/-- The warnings on functions among what a lookup reports. -/
def functionReports (place : ReportPlace) : List Diagnostic :=
  (context.reports request place).filter Diagnostic.isFunctionWarning

variable {context request}

theorem isFreeFunction_of_mem {id : SymbolId} (function : id ∈ context.freeFunctions request) :
    context.isFreeFunction id = true := by
  rcases freeFunctions_cases context request with nothing | ⟨scope, _, _, functions⟩
  · rw [nothing] at function
    cases function
  · rw [functions] at function
    exact (List.mem_filter.mp function).2

theorem isMethod_of_isFreeFunction {id : SymbolId} (free : context.isFreeFunction id = true) :
    context.symbols.isMethod id = true :=
  SymbolArena.isMethod_of_isStaticMethod (Bool.and_eq_true_iff.mp free).1

theorem mem_passedOver {function method : SymbolId} :
    (function, method) ∈ context.passedOver request ↔
      function ∈ context.freeFunctions request ∧ function ∉ (context.walked request).symbols ∧
        method ∈ (context.walked request).symbols ∧ context.symbols.isMethod method = true := by
  simp only [passedOver, List.pair_mem_product, List.mem_filter, LookupResult.contains,
    Bool.not_eq_true', List.contains_eq_mem, decide_eq_false_iff_not, and_assoc]

theorem nodup_passedOver : (context.passedOver request).Nodup :=
  ((context.nodup_freeFunctions request).filter _).product
    ((context.walked_wellFormed request).distinct.filter _)

theorem passedOver_eq_nil
    (same : (context.walked request).symbols = context.freeFunctions request) :
    context.passedOver request = [] := by
  apply List.eq_nil_iff_forall_not_mem.mpr
  rintro ⟨function, method⟩ member
  obtain ⟨free, absent, _⟩ := mem_passedOver.mp member
  exact absent (same ▸ free)

theorem functionWarnings_eq (place : ReportPlace) :
    context.functionWarnings place request.name (context.walked request)
      (context.freeFunctions request) =
      (context.passedOver request).map (context.functionWarning request place) := by
  have methods : (context.freeFunctions request).filter (fun id =>
        !(context.walked request).contains id && context.symbols.isMethod id) =
      (context.freeFunctions request).filter fun id => !(context.walked request).contains id := by
    apply List.filter_congr
    intro id function
    rw [isMethod_of_isFreeFunction (isFreeFunction_of_mem function), Bool.and_true]
  simp only [functionWarnings, passedOver, List.product, methods, List.map_flatMap, List.map_map]
  rfl

theorem filter_functionWarning (place : ReportPlace) (pairs : List (SymbolId × SymbolId)) :
    (pairs.map (context.functionWarning request place)).filter Diagnostic.isFunctionWarning =
      pairs.map (context.functionWarning request place) := by
  apply List.filter_eq_self.mpr
  intro diagnostic member
  obtain ⟨pair, _, rfl⟩ := List.mem_map.mp member
  rfl

/-- The error on a field out of reach is another message. -/
theorem filter_inaccessibleField (place : ReportPlace) (result : LookupResult) :
    (context.inaccessibleField place result).filter Diagnostic.isFunctionWarning = [] := by
  apply List.filter_eq_nil_iff.mpr
  intro diagnostic member
  unfold inaccessibleField at member
  split at member
  · split at member
    · obtain ⟨symbol, _, rfl⟩ : ∃ symbol, _ ∧ _ = diagnostic := by
        simpa only [inaccessibleDiagnostic, Option.mem_toList, Option.mem_def,
          Option.map_eq_some_iff] using member
      exact Bool.false_ne_true
    · cases member
  · cases member

/-- The warnings on functions are those of the pairs passed over, unless the functions displace the
result. -/
theorem functionReports_eq (place : ReportPlace) :
    context.functionReports request place =
      if request.filter.diagnose &&
          !context.functionsDisplace (context.walked request) (context.freeFunctions request) then
        (context.passedOver request).map (context.functionWarning request place)
      else [] := by
  unfold functionReports reports
  cases request.filter.diagnose with
  | false => rfl
  | true =>
    simp only [↓reduceIte, List.filter_append, filter_inaccessibleField,
      List.append_nil, Bool.true_and]
    cases context.functionsDisplace (context.walked request) (context.freeFunctions request) with
    | true => rfl
    | false =>
      simp only [Bool.false_eq_true, ↓reduceIte, Bool.not_false, functionWarnings_eq]
      exact filter_functionWarning place _

theorem search_symbols :
    (context.search request).result.symbols =
      if context.functionsDisplace (context.walked request) (context.freeFunctions request) then
        context.freeFunctions request
      else (context.walked request).symbols := by
  simp only [search, reconcile]
  split
  · exact LookupResult.ofViable_symbols _ _
  · rfl

theorem search_symbols_cases (context : LookupContext) (request : LookupRequest) :
    (context.search request).result.symbols = (context.walked request).symbols ∨
      (context.search request).result.symbols = context.freeFunctions request := by
  rw [search_symbols]
  split
  · exact .inr rfl
  · exact .inl rfl

theorem search_symbols_of_core (core : context.options.dialect = .core) :
    (context.search request).result.symbols = (context.walked request).symbols := by
  have unpreferred : context.options.dialect.prefersFreeFunctions = false := by rw [core]; rfl
  rw [search_symbols]
  apply if_neg
  intro displace
  rcases functionsDisplace_iff.mp displace with swap | standOut
  · exact absurd swap.preferred (by simp [unpreferred])
  · exact absurd standOut.preferred (by simp [unpreferred])

theorem functionReports_of_functions (place : ReportPlace)
    (taken : (context.search request).result.symbols = context.freeFunctions request) :
    context.functionReports request place = [] := by
  rw [functionReports_eq]
  split
  · rename_i kept
    have stays := (Bool.and_eq_true_iff.mp kept).2
    rw [search_symbols, if_neg (by simpa using stays)] at taken
    rw [passedOver_eq_nil taken, List.map_nil]
  · rfl

theorem functionReports_of_walked (place : ReportPlace)
    (taken : (context.search request).result.symbols = (context.walked request).symbols)
    (asked : request.filter.diagnose = true) :
    context.functionReports request place =
      (context.passedOver request).map (context.functionWarning request place) := by
  rw [functionReports_eq]
  split
  · rfl
  · rename_i displaced
    have displace : context.functionsDisplace (context.walked request)
        (context.freeFunctions request) = true := by
      simpa [asked] using displaced
    rw [search_symbols, if_pos displace] at taken
    rw [passedOver_eq_nil taken.symm, List.map_nil]

/-- A warning tells the truth: its function was not taken and its method was. -/
theorem functionReports_truthful {place : ReportPlace} {warning : Diagnostic}
    (reported : warning ∈ context.functionReports request place) :
    ∃ function method, warning = context.functionWarning request place (function, method) ∧
      context.isFreeFunction function = true ∧ function ∉ (context.search request).result.symbols ∧
      context.symbols.isMethod method = true ∧
        method ∈ (context.search request).result.symbols := by
  rw [functionReports_eq] at reported
  split at reported
  · rename_i kept
    have stays := (Bool.and_eq_true_iff.mp kept).2
    obtain ⟨⟨function, method⟩, pair, rfl⟩ := List.mem_map.mp reported
    obtain ⟨free, absent, present, isMethod⟩ := mem_passedOver.mp pair
    rw [search_symbols, if_neg (by simpa using stays)]
    exact ⟨function, method, rfl, isFreeFunction_of_mem free, absent, isMethod, present⟩
  · cases reported

/-- A free function that gives way to a method does not do so silently. -/
theorem functionWarning_mem_functionReports (place : ReportPlace)
    (asked : request.filter.diagnose = true) {function method : SymbolId}
    (free : function ∈ context.freeFunctions request)
    (lost : function ∉ (context.search request).result.symbols)
    (chosen : method ∈ (context.search request).result.symbols)
    (isMethod : context.symbols.isMethod method = true) :
    context.functionWarning request place (function, method) ∈
      context.functionReports request place := by
  rcases search_symbols_cases context request with walked | functions
  · rw [walked] at lost chosen
    rw [functionReports_of_walked place walked asked]
    exact List.mem_map_of_mem (mem_passedOver.mpr ⟨free, lost, chosen, isMethod⟩)
  · rw [functions] at lost
    exact absurd free lost

/-- A lookup ends with exactly what the walk found or exactly the free functions, in the core
language with what the walk found. Where it ends with the functions there is no warning; where it
ends with what the walk found and is to report, there is one warning for each function that was not
found and each method that was. So every warning names a function that was not taken and a method
that was, and no function gives way to a method silently. -/
theorem reconciliation_all_or_nothing (context : LookupContext) (request : LookupRequest)
    (place : ReportPlace) (bag : DiagnosticBag) {outcome : LookupOutcome} {after : DiagnosticBag}
    (answered : context.lookup request place bag = (outcome, after)) :
    (outcome.result.symbols = (context.walked request).symbols ∨
      outcome.result.symbols = context.freeFunctions request) ∧
    (context.options.dialect = .core → outcome.result.symbols = (context.walked request).symbols) ∧
    after.restrict Diagnostic.isFunctionWarning =
      (bag.restrict Diagnostic.isFunctionWarning).extend (context.functionReports request place) ∧
    (outcome.result.symbols = context.freeFunctions request →
      context.functionReports request place = []) ∧
    (outcome.result.symbols = (context.walked request).symbols → request.filter.diagnose = true →
      ∃ pairs : List (SymbolId × SymbolId), pairs.Nodup ∧
        context.functionReports request place = pairs.map (context.functionWarning request place) ∧
        ∀ function method, (function, method) ∈ pairs ↔
          function ∈ context.freeFunctions request ∧ function ∉ (context.walked request).symbols ∧
            method ∈ (context.walked request).symbols ∧ context.symbols.isMethod method = true) ∧
    (∀ warning ∈ context.functionReports request place, ∃ function method,
      warning = context.functionWarning request place (function, method) ∧
        context.isFreeFunction function = true ∧ function ∉ outcome.result.symbols ∧
        context.symbols.isMethod method = true ∧ method ∈ outcome.result.symbols) ∧
    (request.filter.diagnose = true → ∀ function ∈ context.freeFunctions request,
      function ∉ outcome.result.symbols →
        ∀ method ∈ outcome.result.symbols, context.symbols.isMethod method = true →
        context.functionWarning request place (function, method) ∈ after.items) := by
  obtain ⟨rfl, rfl⟩ := Prod.mk.inj answered
  refine ⟨search_symbols_cases context request, search_symbols_of_core,
    bag.restrict_extend Diagnostic.isFunctionWarning (context.reports request place),
    functionReports_of_functions place, ?_, fun _ => functionReports_truthful, ?_⟩
  · intro taken asked
    exact ⟨context.passedOver request, nodup_passedOver,
      functionReports_of_walked place taken asked,
      fun _ _ => mem_passedOver⟩
  · intro asked function free lost method chosen isMethod
    have reported := functionWarning_mem_functionReports place asked free lost chosen isMethod
    exact DiagnosticBag.mem_extend.mpr (.inr (List.mem_filter.mp reported).1)

/-- A class and its base with a static method each, in a namespace that imports a function of the
same name. -/
def drawContext : LookupContext where
  symbols :=
    let functions := (SymbolArena.mk #[]).alloc { name := "Functions", flags := .classType }
    let function := functions.declareMember ⟨0⟩ { name := "Draw", flags := .union .method .static }
    let base := function.alloc { name := "Shape", flags := .classType }
    let inherited := base.declareMember ⟨2⟩ { name := "Draw", flags := .union .method .static }
    let derived := inherited.alloc { name := "Circle", flags := .classType, base := some ⟨2⟩ }
    derived.declareMember ⟨4⟩ { name := "Draw", flags := .union .method .static }
  scopes :=
    (((ScopeArena.mk #[]).add .namespaceBody none none).importStatic ⟨0⟩ ⟨0⟩).add .typeBody
      (some ⟨0⟩) (some ⟨4⟩)
  options := .forDialect .vo

def drawRequest : LookupRequest :=
  { name := "Draw", scope := ⟨1⟩, filter := { mustBeInvocable := true, diagnose := true } }

/-- In the class both methods are taken, and the one function is reported with each of them. -/
theorem draw_reported_with_both_methods :
    (drawContext.lookup drawRequest ⟨"shape.prg", ⟨4, 4⟩⟩ {}).1.result.symbols = [⟨5⟩, ⟨3⟩] ∧
      drawContext.freeFunctions drawRequest = [⟨1⟩] ∧
      ∃ pairs : List (SymbolId × SymbolId), pairs.Nodup ∧ (⟨1⟩, ⟨5⟩) ∈ pairs ∧ (⟨1⟩, ⟨3⟩) ∈ pairs ∧
        drawContext.functionReports drawRequest ⟨"shape.prg", ⟨4, 4⟩⟩ =
          pairs.map (drawContext.functionWarning drawRequest ⟨"shape.prg", ⟨4, 4⟩⟩) := by
  obtain ⟨_, _, _, _, warned, _, _⟩ :=
    reconciliation_all_or_nothing drawContext drawRequest ⟨"shape.prg", ⟨4, 4⟩⟩ {} rfl
  obtain ⟨pairs, distinct, reported, members⟩ := warned (by decide) rfl
  exact ⟨by decide, by decide, pairs, distinct, (members _ _).mpr (by decide),
    (members _ _).mpr (by decide), reported⟩

end LookupContext

end DialectBinder
