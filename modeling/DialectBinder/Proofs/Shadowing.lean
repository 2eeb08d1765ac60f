import Mathlib.Data.List.TakeWhile
import DialectBinder.Proofs.LookupShape

/-! Lexical shadowing in closed form. The walk joins the results of the enclosing scopes one after
the other; here its result is read off the list of them all. The innermost usable one decides, and
only an ambiguity takes in symbols from further out. -/

namespace DialectBinder

namespace LookupResult

/-- The result with the symbols of outer ones behind its own, in order and each of them once. -/
def joinedBy (result : LookupResult) (outer : List LookupResult) : LookupResult :=
  { result with symbols := (result.symbols ++ outer.flatMap (·.symbols)).eraseDups }

/-- What the results of nested scopes mean together, the innermost one first. The first with usable
symbols decides: alone, or with the later ambiguous ones if it is ambiguous itself. Unusable symbols
are those of all scopes. -/
def nested (results : List LookupResult) : LookupResult :=
  match results.dropWhile fun result => !result.kind.isUsable with
  | first :: outer =>
    if first.isSettled then first else first.joinedBy (outer.filter (·.kind == .ambiguous))
  | [] =>
      match results.filter (·.kind == .inaccessible) with
      | first :: outer => first.joinedBy outer
      | [] => .empty

/-- Joining symbols one by one keeps the first occurrence of each. -/
theorem union_eq_eraseDups {symbols : List SymbolId} (distinct : symbols.Nodup)
    (more : List SymbolId) :
    union symbols more = (symbols ++ more).eraseDups := by
  induction more generalizing symbols with
  | nil => rw [List.append_nil, List.eraseDups_of_nodup distinct]; rfl
  | cons first rest ih =>
    have step : union symbols (first :: rest) = union (union symbols [first]) rest := rfl
    rw [step, ih (nodup_union distinct [first])]
    by_cases held : first ∈ symbols
    · have kept : union symbols [first] = symbols := by simp [union, held]
      have skipped : (first :: rest).removeAll symbols = rest.removeAll symbols := by
        simp [List.removeAll, held]
      rw [kept, List.eraseDups_append, List.eraseDups_append, skipped]
    · have appended : union symbols [first] = symbols ++ [first] := by simp [union, held]
      rw [appended, List.append_assoc, List.singleton_append]

section

variable {result first : LookupResult} {outer rest : List LookupResult}

theorem joinedBy_nil (distinct : result.symbols.Nodup) : result.joinedBy [] = result := by
  simp [joinedBy, List.eraseDups_of_nodup distinct]

/-- The next outer result may be joined before the others. -/
theorem joinedBy_cons (distinct : result.symbols.Nodup) (first : LookupResult)
    (rest : List LookupResult) :
    result.joinedBy (first :: rest) =
      { result with symbols := union result.symbols first.symbols :
        LookupResult }.joinedBy rest := by
  have joined := nodup_union distinct first.symbols
  simp only [joinedBy, ← union_eq_eraseDups distinct, ← union_eq_eraseDups joined,
    List.flatMap_cons]
  simp only [union, List.foldl_append]

theorem isUsable_of_isSettled (settled : result.isSettled = true) :
    result.kind.isUsable = true := by
  rcases isSettled_iff.mp settled with viable | group
  · rw [viable]; rfl
  · rw [group]; rfl

theorem nested_cons_of_isUsable (usable : result.kind.isUsable = true) (outer : List LookupResult) :
    nested (result :: outer) =
      if result.isSettled then result
      else result.joinedBy (outer.filter (·.kind == .ambiguous)) := by
  simp [nested, usable]

theorem nested_cons_of_isSettled (settled : result.isSettled = true) (outer : List LookupResult) :
    nested (result :: outer) = result := by
  rw [nested_cons_of_isUsable (isUsable_of_isSettled settled), if_pos settled]

theorem nested_cons_of_ambiguous (ambiguous : result.kind = .ambiguous)
    (outer : List LookupResult) :
    nested (result :: outer) = result.joinedBy (outer.filter (·.kind == .ambiguous)) := by
  have usable : result.kind.isUsable = true := by rw [ambiguous]; rfl
  have unsettled : result.isSettled = false := by simp [isSettled, ambiguous]
  rw [nested_cons_of_isUsable usable, unsettled]
  rfl

theorem nested_cons_of_empty (empty : result.kind = .empty) (outer : List LookupResult) :
    nested (result :: outer) = nested outer := by
  simp [nested, empty, LookupKind.isUsable]

/-- Unusable symbols count only if no scope further out has usable ones. -/
theorem nested_cons_of_inaccessible (inaccessible : result.kind = .inaccessible)
    (outer : List LookupResult) :
    nested (result :: outer) =
      if outer.any (·.kind.isUsable) then nested outer
      else result.joinedBy (outer.filter (·.kind == .inaccessible)) := by
  have skipped : (result :: outer).dropWhile (fun result => !result.kind.isUsable) =
      outer.dropWhile fun result => !result.kind.isUsable := by
    simp [inaccessible, LookupKind.isUsable]
  have listed : (result :: outer).filter (·.kind == .inaccessible) =
      result :: outer.filter (·.kind == .inaccessible) := by
    simp [inaccessible]
  simp only [nested, skipped, listed]
  by_cases usable : outer.any (·.kind.isUsable) = true
  · rw [if_pos usable]
    have reached : outer.dropWhile (fun result => !result.kind.isUsable) ≠ [] := by
      simpa [List.dropWhile_eq_nil_iff] using usable
    obtain ⟨first, later, found⟩ := List.exists_cons_of_ne_nil reached
    rw [found]
  · rw [if_neg usable]
    have unreached : outer.dropWhile (fun result => !result.kind.isUsable) = [] := by
      simpa [List.dropWhile_eq_nil_iff] using usable
    rw [unreached]

theorem merge_of_lower (arena : SymbolArena) (lower : result.kind.rank < first.kind.rank) :
    result.merge arena first = first := by
  simp [merge, lower]

theorem merge_of_same (arena : SymbolArena) (same : first.kind = result.kind)
    (joins : result.kind = .inaccessible ∨ result.kind = .ambiguous) :
    result.merge arena first = { result with symbols := union result.symbols first.symbols } := by
  rcases joins with kind | kind
  · simp [merge, isEmpty, isSettled, same, kind]
  · simp [merge, isEmpty, isSettled, same, kind]

/-- Joining the two innermost results first does not change what all of them mean. -/
theorem nested_merge {arena : SymbolArena} (formed : result.WellFormed arena)
    (unsettled : result.isSettled = false) (first : LookupResult) (rest : List LookupResult) :
    nested (result :: first :: rest) = nested (result.merge arena first :: rest) := by
  -- What is joined already is empty, inaccessible or ambiguous; each of them meets the next result
  -- in its own way.
  cases kind : result.kind with
  | viable | multiViable => simp [isSettled, kind] at unsettled
  | empty =>
    rw [nested_cons_of_empty kind]
    by_cases outer : first.kind = .empty
    · rw [merge_of_higher arena (.inr outer), nested_cons_of_empty kind, nested_cons_of_empty outer]
    · have lower : result.kind.rank < first.kind.rank := by
        rw [kind]
        exact Nat.pos_of_ne_zero fun lowest => outer (LookupKind.eq_empty_of_rank lowest)
      rw [merge_of_lower arena lower]
  | inaccessible =>
    rw [nested_cons_of_inaccessible kind]
    cases outer : first.kind with
    | empty =>
      rw [merge_of_higher arena (.inr outer), nested_cons_of_inaccessible kind,
        nested_cons_of_empty outer]
      simp [outer, LookupKind.isUsable]
    | inaccessible =>
      have joined := merge_of_same arena (outer.trans kind.symm) (.inl kind)
      have joinedKind : (result.merge arena first).kind = .inaccessible := by rw [joined, kind]
      have unusable : first.kind.isUsable = false := by rw [outer]; rfl
      rw [nested_cons_of_inaccessible joinedKind, nested_cons_of_inaccessible outer, joined,
        ← joinedBy_cons formed.distinct, List.filter_cons_of_pos (by simpa using outer),
        List.any_cons, unusable, Bool.false_or]
      split
      · rfl
      · rfl
    | viable | multiViable | ambiguous =>
      have lower : result.kind.rank < first.kind.rank := by rw [kind, outer]; decide
      rw [merge_of_lower arena lower, if_pos]
      simp [outer, LookupKind.isUsable]
  | ambiguous =>
    rw [nested_cons_of_ambiguous kind]
    by_cases outer : first.kind = .ambiguous
    · have joined := merge_of_same arena (outer.trans kind.symm) (.inr kind)
      have joinedKind : (result.merge arena first).kind = .ambiguous := by rw [joined, kind]
      rw [nested_cons_of_ambiguous joinedKind, joined, ← joinedBy_cons formed.distinct,
        List.filter_cons_of_pos (by simpa using outer)]
    · have higher : first.kind.rank < result.kind.rank := by
        rw [kind]
        cases other : first.kind with
        | ambiguous => exact absurd other outer
        | empty | inaccessible | viable | multiViable => decide
      rw [merge_of_higher arena (.inl higher), nested_cons_of_ambiguous kind,
        List.filter_cons_of_neg (by simpa using outer)]

theorem nested_singleton {arena : SymbolArena} (formed : result.WellFormed arena) :
    nested [result] = result := by
  cases kind : result.kind with
  | viable | multiViable => exact nested_cons_of_isSettled (by simp [isSettled, kind]) []
  | empty =>
    have symbols : result.symbols = [] := formed.fits.eq_empty_iff.mp kind
    have problem : result.problem = none := by rw [formed.named, kind]; rfl
    rw [nested_cons_of_empty kind]
    cases result
    simp_all [nested, empty]
  | inaccessible =>
    rw [nested_cons_of_inaccessible kind]
    exact joinedBy_nil formed.distinct
  | ambiguous =>
    rw [nested_cons_of_ambiguous kind]
    exact joinedBy_nil formed.distinct

theorem nested_append {inner : List LookupResult} (settled : (nested inner).isSettled = true)
    (outer : List LookupResult) : nested (inner ++ outer) = nested inner := by
  induction inner with
  | nil => simp [nested, empty, isSettled] at settled
  | cons result rest ih =>
    rw [List.cons_append]
    cases kind : result.kind with
    | viable | multiViable =>
      have decided : result.isSettled = true := by simp [isSettled, kind]
      rw [nested_cons_of_isSettled decided, nested_cons_of_isSettled decided]
    | empty =>
      rw [nested_cons_of_empty kind] at settled ⊢
      rw [nested_cons_of_empty kind, ih settled]
    | inaccessible =>
      rw [nested_cons_of_inaccessible kind] at settled ⊢
      rw [nested_cons_of_inaccessible kind]
      split at settled
      · rename_i usable
        rw [if_pos usable, List.any_append, usable, Bool.true_or, if_pos rfl, ih settled]
      · simp [joinedBy, isSettled, kind] at settled
    | ambiguous =>
      rw [nested_cons_of_ambiguous kind] at settled
      simp [joinedBy, isSettled, kind] at settled

end

end LookupResult

namespace LookupContext

variable (context : LookupContext) (request : LookupRequest)

/-- What the enclosing scopes have for a request, the innermost one first. -/
def scopeResults : List LookupResult :=
  (context.scopes.chain request.scope).map (context.lookupInScope request)

/-- The walk goes on from what it has joined as if that were the innermost result. -/
theorem walk_eq_nested (scopes : List ScopeId) {reached : LookupOutcome}
    (formed : reached.result.WellFormed context.symbols)
    (unsettled : reached.result.isSettled = false) :
    (context.walk request reached scopes).result =
      .nested (reached.result :: scopes.map (context.lookupInScope request)) := by
  induction scopes generalizing reached with
  | nil => exact (LookupResult.nested_singleton formed).symm
  | cons scope outer ih =>
    have joinedFormed := formed.merge (context.lookupInScope_wellFormed request scope)
    rw [List.map_cons, LookupResult.nested_merge formed unsettled]
    rw [← result_visit] at joinedFormed ⊢
    simp only [walk]
    split
    · rename_i settled
      exact (LookupResult.nested_cons_of_isSettled settled _).symm
    · rename_i unsettledYet
      exact ih joinedFormed (by simpa using unsettledYet)

theorem walked_eq_nested : context.walked request = .nested (context.scopeResults request) :=
  (context.walk_eq_nested request _ (LookupResult.wellFormed_empty context.symbols) rfl).trans
    (LookupResult.nested_cons_of_empty rfl _)

variable {context request} in
theorem search_of_no_functions (noFunctions : context.freeFunctions request = []) :
    (context.search request).result = context.walked request := by
  simp [search, reconcile, functionsDisplace, noFunctions]

/-- Where no free functions were found beforehand, a name means what the innermost scope with usable
symbols says; only an ambiguity takes in the ambiguous symbols from further out, and unusable
symbols are gathered from all scopes. The binding scope is the first with any symbol. No outer scope
changes a result that the inner ones settle. -/
theorem lookup_shadows (noFunctions : context.freeFunctions request = []) (place : ReportPlace)
    (bag : DiagnosticBag) :
    (context.lookup request place bag).1.result = .nested (context.scopeResults request) ∧
      (context.lookup request place bag).1.bindingScope =
        ((context.scopes.chain request.scope).find? fun scope =>
          (context.lookupInScope request scope).kind != .empty) ∧
      ∀ inner outer, context.scopeResults request = inner ++ outer →
        (LookupResult.nested inner).isSettled = true →
        (context.lookup request place bag).1.result = .nested inner := by
  have closed : (context.search request).result = .nested (context.scopeResults request) :=
    (search_of_no_functions noFunctions).trans (context.walked_eq_nested request)
  refine ⟨closed, context.bindingScope_search request, ?_⟩
  intro inner outer split settled
  calc (context.search request).result
      = .nested (inner ++ outer) := split ▸ closed
    _ = .nested inner := LookupResult.nested_append settled outer

/-- Four nested blocks with variables of one name: from the outside two, one, two, and a foreign
one. -/
def crowdedContext : LookupContext where
  symbols :=
    let total : Symbol := { name := "total", flags := .localVariable }
    let foreign : Symbol := { total with accessibility := .internalAccess, assembly := ⟨1⟩ }
    [foreign, total, total, total, total].foldl SymbolArena.alloc ⟨#[]⟩
  scopes :=
    let nested := [none, some 0, some 1, some 2].foldl
      (fun arena outer => arena.add .block (outer.map ScopeId.mk) none) (ScopeArena.mk #[])
    [(0, 4), (0, 2), (1, 3), (2, 1), (2, 2), (3, 0)].foldl
      (fun arena (scope, symbol) => arena.declare ⟨scope⟩ "total" ⟨symbol⟩) nested
  options := .forDialect .vo

def crowdedRequest : LookupRequest := { name := "Total", scope := ⟨3⟩ }

/-- The foreign variable binds the name, the two around it decide, and one of the outermost two
joins them. -/
theorem lookup_shadows_crowded :
    crowdedContext.freeFunctions crowdedRequest = [] ∧
      (crowdedContext.scopeResults crowdedRequest).map (·.kind) =
        [.inaccessible, .ambiguous, .viable, .ambiguous] ∧
      (crowdedContext.lookup crowdedRequest ⟨"", .dummy⟩ {}).1.result =
        ⟨.ambiguous, [⟨1⟩, ⟨2⟩, ⟨4⟩], some (.ambiguous ⟨1⟩ ⟨2⟩)⟩ ∧
      (crowdedContext.lookup crowdedRequest ⟨"", .dummy⟩ {}).1.bindingScope = some ⟨3⟩ := by
  have noFunctions : crowdedContext.freeFunctions crowdedRequest = [] := by decide
  obtain ⟨result, binding, _⟩ :=
    lookup_shadows crowdedContext crowdedRequest noFunctions ⟨"", .dummy⟩ {}
  have meaning : LookupResult.nested (crowdedContext.scopeResults crowdedRequest) =
      ⟨.ambiguous, [⟨1⟩, ⟨2⟩, ⟨4⟩], some (.ambiguous ⟨1⟩ ⟨2⟩)⟩ := by decide
  exact ⟨noFunctions, by decide, result.trans meaning, binding.trans (by decide)⟩

end LookupContext

end DialectBinder
