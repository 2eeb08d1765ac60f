import Mathlib.Data.List.Find
import DialectBinder.Proofs.Lists
import DialectBinder.Proofs.LookupSoundness
import DialectBinder.Proofs.SymbolGrowth

/-! Lookups before and after the symbols have grown. A lookup has the same outcome if every
enclosing scope gives the same result, and a scope does so if it still offers the same symbols that
the request takes. -/

namespace DialectBinder

def Scope.links (scope : Scope) : List SymbolId :=
  scope.container.toList ++ scope.locals.all ++ scope.imports

namespace LookupResult

section

variable {arena later : SymbolArena} {symbols : List SymbolId}
  (same : ∀ id ∈ symbols, later.isMethod id = arena.isMethod id)

include same

theorem ofViable_congr : ofViable later symbols = ofViable arena symbols := by
  have methods : symbols.all later.isMethod = symbols.all arena.isMethod :=
    List.all_congr_of_mem same
  unfold ofViable
  split
  · rfl
  · rfl
  · rw [methods]

theorem ofCandidates_congr (inaccessible : List SymbolId) :
    ofCandidates later symbols inaccessible = ofCandidates arena symbols inaccessible := by
  unfold ofCandidates
  split
  · rfl
  · rfl
  · exact ofViable_congr same

end

theorem merge_congr {arena later : SymbolArena} {result outer : LookupResult}
    (inner : ∀ id ∈ result.symbols, later.isMethod id = arena.isMethod id)
    (added : ∀ id ∈ outer.symbols, later.isMethod id = arena.isMethod id) :
    result.merge later outer = result.merge arena outer := by
  have joined : ofViable later (union result.symbols outer.symbols) =
      ofViable arena (union result.symbols outer.symbols) := by
    apply ofViable_congr
    intro id member
    exact (mem_union.mp member).elim (inner id) (added id)
  simp only [merge, joined]

end LookupResult

namespace LookupContext

/-- The same scopes and options over other symbols. -/
def withSymbols (context : LookupContext) (symbols : SymbolArena) : LookupContext :=
  { context with symbols }

@[simp] theorem symbols_withSymbols (context : LookupContext) (symbols : SymbolArena) :
    (context.withSymbols symbols).symbols = symbols := rfl

@[simp] theorem scopes_withSymbols (context : LookupContext) (symbols : SymbolArena) :
    (context.withSymbols symbols).scopes = context.scopes := rfl

@[simp] theorem options_withSymbols (context : LookupContext) (symbols : SymbolArena) :
    (context.withSymbols symbols).options = context.options := rfl

/-- Everything that the symbols and the scopes refer to exists. -/
structure Closed (context : LookupContext) : Prop where
  symbols : context.symbols.Closed
  links : ∀ scope ∈ context.scopes.scopes.toList, ∀ id ∈ scope.links,
    (context.symbols.get? id).isSome = true
  parents : ∀ scope ∈ context.scopes.scopes.toList, ∀ outer ∈ scope.parent,
    (context.scopes.get? outer).isSome = true

variable {context : LookupContext} {request : LookupRequest}

theorem Answers.known {usable : Bool} {id : SymbolId} (answer : context.Answers request usable id) :
    (context.symbols.get? id).isSome = true := by
  obtain ⟨symbol, found, _⟩ := answer
  rw [found]
  rfl

theorem known_of_matchesRequest {id : SymbolId} (taken : context.matchesRequest request id = true) :
    (context.symbols.get? id).isSome = true :=
  (answers_of_matchesRequest taken).known

/-- What a scope outside any type has for the request. -/
def outsideResult? (context : LookupContext) (request : LookupRequest) (scope : ScopeId) :
    Option LookupResult :=
  if (context.scopes.get? scope).any Scope.isOutsideType then
    let found := context.lookupInScope request scope
    if found.isEmpty then none else some found
  else none

theorem sound_of_outsideResult? {scope : ScopeId} {found : LookupResult}
    (offered : context.outsideResult? request scope = some found) :
    context.SoundResult request found := by
  unfold outsideResult? at offered
  split at offered
  · simp only at offered
    split at offered
    · cases offered
    · cases offered
      exact lookupInScope_sound scope
  · cases offered

theorem freeFunctions_eq (context : LookupContext) (request : LookupRequest) :
    context.freeFunctions request =
      if context.options.preferFunctions && !request.filter.mustBeInstance &&
        !request.filter.mustNotBeMethod then
        match (context.scopes.chain request.scope).findSome?
          (context.outsideResult? request.invocable) with
        | some found =>
          if found.kind == .inaccessible then [] else found.symbols.filter context.isFreeFunction
        | none => []
      else [] := rfl

section

variable (closed : context.Closed) {scope : Scope} {id : ScopeId}
    (found : context.scopes.get? id = some scope)

include closed found

theorem Closed.link {linked : SymbolId} (link : linked ∈ scope.links) :
    (context.symbols.get? linked).isSome = true :=
  closed.links scope (Array.mem_toList_iff.mpr (Array.mem_of_getElem? found)) linked link

theorem Closed.container {container : SymbolId} (link : scope.container = some container) :
    (context.symbols.get? container).isSome = true :=
  closed.link found (by simp [Scope.links, link])

end

theorem Closed.enclosingType (closed : context.Closed) {origin : ScopeId} {type : SymbolId}
    (encloses : type ∈ context.scopes.enclosingTypes origin) :
    (context.symbols.get? type).isSome = true := by
  obtain ⟨id, _, container⟩ := List.mem_filterMap.mp encloses
  obtain ⟨scope, found, container⟩ := Option.bind_eq_some_iff.mp container
  obtain ⟨_, _, container⟩ := Option.bind_eq_some_iff.mp container
  exact closed.container found container

section

variable {later : SymbolArena} (grows : context.symbols.Grows later)

include grows

/-- A walk takes the same way if all scopes on it give the same results. -/
theorem walk_withSymbols {scopes : List ScopeId}
    (same : ∀ scope ∈ scopes,
      (context.withSymbols later).lookupInScope request scope = context.lookupInScope request scope)
    {reached : LookupOutcome} (sound : context.SoundResult request reached.result) :
    (context.withSymbols later).walk request reached scopes =
    context.walk request reached scopes := by
  induction scopes generalizing reached with
  | nil => rfl
  | cons scope outer ih =>
    have here : context.SoundResult request (context.lookupInScope request scope) :=
      lookupInScope_sound scope
    have joined : reached.result.merge later (context.lookupInScope request scope) =
        reached.result.merge context.symbols (context.lookupInScope request scope) := by
      apply LookupResult.merge_congr
      · intro id member
        exact grows.isMethod_eq (sound.answers id member).known
      · intro id member
        exact grows.isMethod_eq (here.answers id member).known
    have visited : (context.withSymbols later).visit request reached scope =
        context.visit request reached scope := by
      simp only [visit, same scope List.mem_cons_self, symbols_withSymbols, joined]
    have reachedSound : context.SoundResult request (context.visit request reached scope).result :=
      result_visit reached scope ▸ sound.merge context.symbols here
    have rest :=
      ih (fun other member => same other (List.mem_cons_of_mem scope member)) reachedSound
    simp only [walk, visited, rest]

theorem functionsDisplace_withSymbols {result : LookupResult}
    (known : ∀ id ∈ result.symbols, (context.symbols.get? id).isSome = true)
    (functions : List SymbolId) :
    (context.withSymbols later).functionsDisplace result functions =
    context.functionsDisplace result functions := by
  have statics : (result.symbols.all fun id => functions.contains id || later.isStaticMethod id) =
      result.symbols.all fun id => functions.contains id || context.symbols.isStaticMethod id :=
    List.all_congr_of_mem fun id member => by rw [grows.isStaticMethod_eq (known id member)]
  simp only [functionsDisplace, symbols_withSymbols, options_withSymbols, statics]

end

section

variable {later : SymbolArena} (closed : context.Closed) (grows : context.symbols.Grows later)

include closed grows

theorem isAccessible_withSymbols (origin : ScopeId) {id : SymbolId} {symbol : Symbol}
    (found : context.symbols.get? id = some symbol) (members : NameTable) :
    (context.withSymbols later).isAccessible origin { symbol with members } =
    context.isAccessible origin symbol := by
  have declaring : isAccessible.declaringType (context.withSymbols later) { symbol with members } =
      isAccessible.declaringType context symbol := by
    cases link : symbol.parent with
    | none => simp [isAccessible.declaringType, link]
    | some parent =>
      have sameType : later.isType parent = context.symbols.isType parent :=
        grows.isType_eq (closed.symbols.parent found link)
      simp [isAccessible.declaringType, link, withSymbols, Option.filter_some, sameType]
  have derives (type : SymbolId) :
      (context.scopes.enclosingTypes origin).any (fun enclosing =>
        later.derivesFrom enclosing type) =
        (context.scopes.enclosingTypes origin).any (fun enclosing =>
          context.symbols.derivesFrom enclosing type) := by
    apply List.any_congr_of_mem
    intro enclosing encloses
    exact grows.derivesWithin_eq closed.symbols type maxBaseDepth (closed.enclosingType encloses)
  simp only [isAccessible, declaring]
  simp only [withSymbols, derives]

theorem accessible_withSymbols (origin : ScopeId) {id : SymbolId}
    (known : (context.symbols.get? id).isSome = true) :
    later.satisfies ((context.withSymbols later).isAccessible origin) id =
      context.symbols.satisfies (context.isAccessible origin) id :=
  grows.satisfies_eq known fun _ members found =>
    isAccessible_withSymbols closed grows origin found members

theorem isFreeFunction_withSymbols {id : SymbolId}
    (known : (context.symbols.get? id).isSome = true) :
    (context.withSymbols later).isFreeFunction id = context.isFreeFunction id := by
  simp only [isFreeFunction, withSymbols, grows.isStaticMethod_eq known,
    grows.containerName?_eq known closed.symbols]

/-- What a scope answers depends on the symbols that it offers and the request takes. -/
theorem lookupInScope_withSymbols {scope : ScopeId}
    (sameMatches : (context.withSymbols later).matchesRequest request =
      context.matchesRequest request)
    (sameOffers : ∀ found, context.scopes.get? scope = some found →
      ((context.withSymbols later).offered found request.name).filter
        (context.matchesRequest request) =
        (context.offered found request.name).filter (context.matchesRequest request)) :
    (context.withSymbols later).lookupInScope request scope =
    context.lookupInScope request scope := by
  cases found : context.scopes.get? scope with
  | none => simp [lookupInScope, withSymbols, found]
  | some declared =>
    have here : (context.withSymbols later).scopes.get? scope = some declared := found
    have sameMatching :
        ((context.withSymbols later).offered declared request.name).eraseDups.filter
            ((context.withSymbols later).matchesRequest request) =
          (context.offered declared request.name).eraseDups.filter
          (context.matchesRequest request) := by
      rw [sameMatches, List.filter_eraseDups, List.filter_eraseDups, sameOffers declared found]
    have known : ∀ id ∈ (context.offered declared request.name).eraseDups.filter
        (context.matchesRequest request),
        (context.symbols.get? id).isSome = true := by
      intro id member
      exact known_of_matchesRequest (List.mem_filter.mp member).2
    simp only [lookupInScope, found, here, sameMatching]
    generalize (context.offered declared request.name).eraseDups.filter
      (context.matchesRequest request) = matching
      at known ⊢
    have usable :
        matching.filter (later.satisfies ((context.withSymbols later).isAccessible request.scope)) =
        matching.filter (context.symbols.satisfies (context.isAccessible request.scope)) :=
      List.filter_congr fun id member =>
        accessible_withSymbols closed grows request.scope (known id member)
    have unusable :
        (matching.filter fun id =>
          !later.satisfies ((context.withSymbols later).isAccessible request.scope) id) =
          matching.filter fun id =>
            !context.symbols.satisfies (context.isAccessible request.scope) id :=
      List.filter_congr fun id member => by
        rw [accessible_withSymbols closed grows request.scope (known id member)]
    have methods :
        ∀ id ∈ matching.filter (context.symbols.satisfies (context.isAccessible request.scope)),
        later.isMethod id = context.symbols.isMethod id := by
      intro id member
      exact grows.isMethod_eq (known id (List.mem_filter.mp member).1)
    rw [symbols_withSymbols, usable, unusable]
    exact LookupResult.ofCandidates_congr methods _

theorem freeFunctions_withSymbols
    (same : ∀ scope ∈ context.scopes.chain request.scope,
      (context.withSymbols later).lookupInScope request.invocable scope =
        context.lookupInScope request.invocable scope) :
    (context.withSymbols later).freeFunctions request = context.freeFunctions request := by
  have offers : ∀ scope ∈ context.scopes.chain request.scope,
      (context.withSymbols later).outsideResult? request.invocable scope =
        context.outsideResult? request.invocable scope := by
    intro scope member
    simp only [outsideResult?, scopes_withSymbols, same scope member]
  rw [freeFunctions_eq, freeFunctions_eq, scopes_withSymbols, options_withSymbols,
    List.findSome?_congr offers]
  cases first : (context.scopes.chain request.scope).findSome?
    (context.outsideResult? request.invocable) with
  | none => rfl
  | some found =>
    obtain ⟨scope, _, offered⟩ := List.exists_of_findSome?_eq_some first
    have sound : context.SoundResult request.invocable found := sound_of_outsideResult? offered
    have functions : found.symbols.filter (context.withSymbols later).isFreeFunction =
        found.symbols.filter context.isFreeFunction :=
      List.filter_congr fun id member =>
        isFreeFunction_withSymbols closed grows (sound.answers id member).known
    simp only [functions]

theorem search_withSymbols
    (same : ∀ scope ∈ context.scopes.chain request.scope,
      (context.withSymbols later).lookupInScope request scope = context.lookupInScope request scope)
    (sameInvocable : ∀ scope ∈ context.scopes.chain request.scope,
      (context.withSymbols later).lookupInScope request.invocable scope =
        context.lookupInScope request.invocable scope) :
    (context.withSymbols later).search request = context.search request := by
  have walks : (context.withSymbols later).scopeWalk request = context.scopeWalk request :=
    walk_withSymbols grows same .empty
  have walked : (context.withSymbols later).walked request = context.walked request :=
    congrArg LookupOutcome.result walks
  have functions := freeFunctions_withSymbols closed grows sameInvocable
  have sound : context.SoundResult request (context.walked request) := walked_sound
  have displaced :=
    functionsDisplace_withSymbols grows (fun id member => (sound.answers id member).known)
    (context.freeFunctions request)
  have chosen : LookupResult.ofViable later (context.freeFunctions request) =
      LookupResult.ofViable context.symbols (context.freeFunctions request) :=
    LookupResult.ofViable_congr fun id member =>
      grows.isMethod_eq (freeFunctions_answer member).known
  simp only [search, reconcile, walked, walks, functions, displaced, symbols_withSymbols, chosen]

end

end LookupContext

end DialectBinder
