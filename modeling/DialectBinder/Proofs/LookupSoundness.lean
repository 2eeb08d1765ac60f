import DialectBinder.Lookup.Report

/-! Every symbol that a lookup finds is one that was asked for, whichever way it came into the
result: from the scopes on the way outward or from the free functions found beforehand. -/

namespace DialectBinder

def LookupKind.isUsable : LookupKind → Bool
  | .viable | .multiViable | .ambiguous => true
  | .inaccessible | .empty => false

theorem LookupKind.isUsable_of_rank_eq {kind other : LookupKind} (same : kind.rank = other.rank) :
    kind.isUsable = other.isUsable := by
  revert same
  cases kind <;> cases other <;> decide

theorem LookupKind.eq_empty_of_rank {kind : LookupKind}
    (lowest : kind.rank = LookupKind.empty.rank) :
    kind = .empty := by
  revert lowest
  cases kind <;> decide

theorem LookupKind.isUsable_of_ne {kind : LookupKind} (present : kind ≠ .empty)
    (accessible : kind ≠ .inaccessible) : kind.isUsable = true := by
  revert present accessible
  cases kind <;> decide

theorem LookupKind.isUsable_iff {kind : LookupKind} :
    kind.isUsable = true ↔ kind ∈ [.viable, .multiViable, .ambiguous] := by
  cases kind <;> decide

theorem SymbolArena.satisfies_iff {arena : SymbolArena} {test : Symbol → Bool} {id : SymbolId} :
    arena.satisfies test id = true ↔
      ∃ symbol, arena.get? id = some symbol ∧ test symbol = true := by
  unfold satisfies
  cases arena.get? id <;> simp

namespace LookupResult

theorem mem_union {symbols more : List SymbolId} {id : SymbolId} :
    id ∈ union symbols more ↔ id ∈ symbols ∨ id ∈ more := by
  unfold union
  induction more generalizing symbols with
  | nil => simp
  | cons first rest ih =>
    rw [List.foldl_cons, ih]
    by_cases held : first ∈ symbols
    · simp only [List.contains_iff_mem.mpr held, ↓reduceIte, List.mem_cons]
      constructor
      · exact Or.imp_right .inr
      · rintro (old | rfl | new)
        · exact .inl old
        · exact .inl held
        · exact .inr new
    · simp [held, or_assoc]

theorem ofViable_symbols (arena : SymbolArena) (symbols : List SymbolId) :
    (ofViable arena symbols).symbols = symbols := by
  unfold ofViable
  split
  · rfl
  · rfl
  · split <;> rfl

theorem ofViable_kind (arena : SymbolArena) (symbols : List SymbolId) :
    symbols = [] ∨ (ofViable arena symbols).kind.isUsable = true := by
  unfold ofViable
  split
  · exact .inl rfl
  · exact .inr rfl
  · right
    split <;> rfl

/-- A result of lower rank, or none at all, changes nothing. -/
theorem merge_of_higher (arena : SymbolArena) {result first : LookupResult}
    (higher : first.kind.rank < result.kind.rank ∨ first.kind = .empty) :
    result.merge arena first = result := by
  rcases higher with lower | empty
  · have kept : ¬result.kind.rank < first.kind.rank := by omega
    simp [merge, kept, Nat.ne_of_lt lower]
  · simp [merge, isEmpty, empty, LookupKind.rank]

end LookupResult

/-- The same question for something callable only. -/
def LookupRequest.invocable (request : LookupRequest) : LookupRequest :=
  { request with filter := { request.filter with mustBeInvocable := true } }

namespace LookupContext

variable (context : LookupContext) (request : LookupRequest)

/-- The symbol exists, has the asked name and passes the filter; the place of the lookup may use it
or not. -/
def Answers (usable : Bool) (id : SymbolId) : Prop :=
  ∃ symbol, context.symbols.get? id = some symbol ∧
    context.options.namesEqual symbol.name request.name = true ∧
    request.filter.admits request.arity symbol = true ∧
    context.isAccessible request.scope symbol = usable

/-- A result holds answers alone: usable ones, or unusable ones if it is inaccessible. -/
structure SoundResult (result : LookupResult) : Prop where
  nothing : result.kind = .empty → result.symbols = []
  answers : ∀ id ∈ result.symbols, context.Answers request result.kind.isUsable id

variable {context request}

theorem SoundResult.empty : context.SoundResult request .empty where
  nothing _ := rfl
  answers _ member := nomatch member

theorem SoundResult.ofViable (arena : SymbolArena) {symbols : List SymbolId}
    (answered : ∀ id ∈ symbols, context.Answers request true id) :
    context.SoundResult request (.ofViable arena symbols) := by
  rcases LookupResult.ofViable_kind arena symbols with rfl | usable
  · exact .empty
  · constructor
    · intro empty
      simp [empty, LookupKind.isUsable] at usable
    · rw [LookupResult.ofViable_symbols, usable]
      exact answered

theorem SoundResult.ofCandidates (arena : SymbolArena) {viable inaccessible : List SymbolId}
    (usable : ∀ id ∈ viable, context.Answers request true id)
    (unusable : ∀ id ∈ inaccessible, context.Answers request false id) :
    context.SoundResult request (.ofCandidates arena viable inaccessible) := by
  unfold LookupResult.ofCandidates
  split
  · exact .empty
  · exact ⟨nofun, unusable⟩
  · exact .ofViable arena usable

/-- A symbol that one scope offers and the request takes is an answer, sorted by whether it may be
used. -/
theorem answers_of_matchesRequest {id : SymbolId}
    (taken : context.matchesRequest request id = true) :
    context.Answers request
      (context.symbols.satisfies (context.isAccessible request.scope) id) id := by
  obtain ⟨symbol, found, passed⟩ := SymbolArena.satisfies_iff.mp taken
  obtain ⟨named, admitted⟩ := Bool.and_eq_true_iff.mp passed
  exact ⟨symbol, found, named, admitted, by simp [SymbolArena.satisfies, found]⟩

theorem lookupInScope_sound (scope : ScopeId) :
    context.SoundResult request (context.lookupInScope request scope) := by
  unfold lookupInScope
  split
  · exact .empty
  · apply SoundResult.ofCandidates
    · intro id member
      simp only [List.mem_filter] at member
      obtain ⟨⟨_, taken⟩, usable⟩ := member
      exact usable ▸ answers_of_matchesRequest taken
    · intro id member
      simp only [List.mem_filter, Bool.not_eq_eq_eq_not, Bool.not_true] at member
      obtain ⟨⟨_, taken⟩, unusable⟩ := member
      exact unusable ▸ answers_of_matchesRequest taken

/-- Joining the result of an outer scope mixes no usable symbols with unusable ones. -/
theorem SoundResult.merge (arena : SymbolArena) {result outer : LookupResult}
    (inner : context.SoundResult request result) (added : context.SoundResult request outer) :
    context.SoundResult request (result.merge arena outer) := by
  unfold LookupResult.merge
  split
  · exact added
  · split
    · rename_i combined
      obtain ⟨same, present⟩ := combined
      have kinds := LookupKind.isUsable_of_rank_eq same
      have answered : ∀ id ∈ LookupResult.union result.symbols outer.symbols,
          context.Answers request result.kind.isUsable id := by
        intro id member
        rcases LookupResult.mem_union.mp member with old | new
        · exact inner.answers id old
        · exact kinds ▸ added.answers id new
      simp only
      split
      · rename_i settled
        have usable : result.kind.isUsable = true := by
          rcases Bool.or_eq_true_iff.mp settled with viable | group
          · rw [beq_iff_eq.mp viable]; rfl
          · rw [beq_iff_eq.mp group]; rfl
        exact .ofViable arena (usable ▸ answered)
      · constructor
        · intro empty
          -- An empty result has the lowest rank, which no outer result with symbols shares.
          have absent : outer.kind = .empty :=
            LookupKind.eq_empty_of_rank (same.trans (congrArg _ empty))
          simp [LookupResult.isEmpty, absent] at present
        · exact answered
    · exact inner

/-- A scope without a result is passed over, as joining nothing would. -/
theorem result_visit (reached : LookupOutcome) (scope : ScopeId) :
    (context.visit request reached scope).result =
      reached.result.merge context.symbols (context.lookupInScope request scope) := by
  simp only [visit]
  split
  · rename_i nothing
    exact (LookupResult.merge_of_higher context.symbols (.inr (beq_iff_eq.mp nothing))).symm
  · rfl

/-- What every join of a scope's result keeps holds of the walk's result. -/
theorem walk_preserves {holds : LookupResult → Prop}
    (step : ∀ reached scope, holds reached →
      holds (reached.merge context.symbols (context.lookupInScope request scope)))
    (scopes : List ScopeId) {reached : LookupOutcome} (start : holds reached.result) :
    holds (context.walk request reached scopes).result := by
  induction scopes generalizing reached with
  | nil => exact start
  | cons scope outer ih =>
    have joined : holds (context.visit request reached scope).result :=
      result_visit reached scope ▸ step reached.result scope start
    simp only [walk]
    split
    · exact joined
    · exact ih joined

theorem walked_sound : context.SoundResult request (context.walked request) :=
  walk_preserves (fun _ scope reached =>
    reached.merge context.symbols (lookupInScope_sound scope)) _ .empty

theorem Answers.of_invocable {usable : Bool} {id : SymbolId}
    (answer : context.Answers request.invocable usable id) : context.Answers request usable id := by
  obtain ⟨symbol, found, named, admitted, access⟩ := answer
  refine ⟨symbol, found, named, ?_, access⟩
  simp only [LookupFilter.admits, LookupRequest.invocable, Bool.and_eq_true] at admitted ⊢
  obtain ⟨⟨⟨⟨⟨types, callable⟩, instances⟩, statics⟩, methods⟩, arity⟩ := admitted
  have invocable : symbol.isInvocable = true := by simpa using callable
  exact ⟨⟨⟨⟨⟨types, by simp [invocable]⟩, instances⟩, statics⟩, methods⟩, arity⟩

/-- The free functions found beforehand are among the usable symbols of one enclosing scope. -/
theorem freeFunctions_cases (context : LookupContext) (request : LookupRequest) :
    context.freeFunctions request = [] ∨
      ∃ scope ∈ context.scopes.chain request.scope,
        (context.lookupInScope request.invocable scope).kind.isUsable = true ∧
        context.freeFunctions request =
          (context.lookupInScope request.invocable scope).symbols.filter
          context.isFreeFunction := by
  unfold freeFunctions
  split
  · simp only
    split
    · rename_i found search
      obtain ⟨scope, enclosing, offered⟩ := List.exists_of_findSome?_eq_some search
      obtain ⟨_, present, rfl⟩ : (context.scopes.get? scope).any Scope.isOutsideType = true ∧
          (context.lookupInScope request.invocable scope).kind ≠ .empty ∧
          context.lookupInScope request.invocable scope = found := by
        simpa [LookupResult.isEmpty, LookupRequest.invocable] using offered
      split
      · exact .inl rfl
      · rename_i accessible
        have usable := LookupKind.isUsable_of_ne present (by simpa using accessible)
        exact .inr ⟨scope, enclosing, usable, rfl⟩
    · exact .inl rfl
  · exact .inl rfl

theorem freeFunctions_answer {id : SymbolId} (member : id ∈ context.freeFunctions request) :
    context.Answers request true id := by
  rcases freeFunctions_cases context request with nothing | ⟨scope, _, usable, functions⟩
  · rw [nothing] at member
    cases member
  · rw [functions] at member
    have answer := (lookupInScope_sound scope).answers id (List.mem_filter.mp member).1
    exact Answers.of_invocable (usable ▸ answer)

theorem reconcile_sound {result : LookupResult} {functions : List SymbolId}
    (walked : context.SoundResult request result)
    (answered : ∀ id ∈ functions, context.Answers request true id) :
    context.SoundResult request (context.reconcile result functions) := by
  unfold reconcile
  split
  · exact .ofViable context.symbols answered
  · exact walked

theorem search_sound : context.SoundResult request (context.search request).result :=
  reconcile_sound walked_sound fun _ => freeFunctions_answer

/-- A symbol that a lookup finds exists, has the asked name and passes the filter. The place of the
lookup may use it, unless all that was found is out of reach. -/
theorem lookup_sound (place : ReportPlace) (bag : DiagnosticBag) {id : SymbolId}
    (member : id ∈ (context.lookup request place bag).1.result.symbols) :
    ∃ symbol, context.symbols.get? id = some symbol ∧
      context.options.namesEqual symbol.name request.name = true ∧
      request.filter.admits request.arity symbol = true ∧
      ((context.lookup request place bag).1.result.kind ∈ [.viable, .multiViable, .ambiguous] →
        context.isAccessible request.scope symbol = true) ∧
      ((context.lookup request place bag).1.result.kind = .inaccessible →
        context.isAccessible request.scope symbol = false) := by
  obtain ⟨symbol, found, named, admitted, access⟩ := search_sound.answers id member
  refine ⟨symbol, found, named, admitted, ?_, ?_⟩
  · intro usable
    have kind : (context.search request).result.kind.isUsable = true :=
      LookupKind.isUsable_iff.mpr usable
    exact access.trans kind
  · intro unusable
    have kind : (context.search request).result.kind.isUsable = false :=
      congrArg LookupKind.isUsable unusable
    exact access.trans kind

/-- A window with a method `left`, in a namespace that imports a free function of the same name. -/
def windowContext : LookupContext where
  symbols :=
    let functions := (SymbolArena.mk #[]).alloc { name := "AppFunctions", flags := .classType }
    let function := functions.declareMember ⟨0⟩ { name := "Left", flags := .union .method .static }
    let window := function.alloc { name := "Window", flags := .classType }
    window.declareMember ⟨2⟩ { name := "left", flags := .method }
  scopes :=
    let outside := ((ScopeArena.mk #[]).add .namespaceBody none none).importStatic ⟨0⟩ ⟨0⟩
    outside.add .typeBody (some ⟨0⟩) (some ⟨2⟩)
  options := .forDialect .vo

def windowRequest : LookupRequest := { name := "LEFT", scope := ⟨1⟩ }

/-- The walk finds the method of the window, and the free function that takes its place is sound
too. -/
theorem lookup_sound_displaced :
    (windowContext.walked windowRequest).symbols = [⟨3⟩] ∧
      ⟨1⟩ ∈ (windowContext.lookup windowRequest ⟨"", .dummy⟩ {}).1.result.symbols ∧
      ∃ symbol, windowContext.symbols.get? ⟨1⟩ = some symbol ∧
        windowContext.options.namesEqual symbol.name "LEFT" = true ∧
        windowRequest.filter.admits 0 symbol = true ∧
          windowContext.isAccessible ⟨1⟩ symbol = true := by
  have member : ⟨1⟩ ∈ (windowContext.lookup windowRequest ⟨"", .dummy⟩ {}).1.result.symbols := by
    decide
  obtain ⟨symbol, found, named, admitted, usable, _⟩ := lookup_sound ⟨"", .dummy⟩ {} member
  exact ⟨by decide, member, symbol, found, named, admitted, usable (by decide)⟩

end LookupContext

end DialectBinder
