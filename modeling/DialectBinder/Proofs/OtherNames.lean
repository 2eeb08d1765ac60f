import Mathlib.Data.List.Basic
import DialectBinder.Proofs.LookupGrowth

/-! A lookup does not see the declarations of other names, with one exception: members of a type
hide those of its base types before their case is looked at, so that a name that differs in case
alone can hide an inherited answer. -/

namespace DialectBinder.LookupContext

def declaring (context : LookupContext) (container : SymbolId) (added : Symbol) : LookupContext :=
  context.withSymbols (context.symbols.declareMember container added)

@[simp] theorem symbols_declaring (context : LookupContext) (container : SymbolId)
    (added : Symbol) :
    (context.declaring container added).symbols = context.symbols.declareMember container added :=
  rfl

@[simp] theorem options_declaring (context : LookupContext) (container : SymbolId)
    (added : Symbol) :
    (context.declaring container added).options = context.options := rfl

/-- Whether a type has a member under the name that hides those of its base types. -/
def hidesBase (context : LookupContext) (name : String) (type : Symbol) : Bool :=
  (type.membersNamed name).any (context.symbols.satisfies fun member => !member.isMethod)

/-- Whether the base types of a type have an answer to the request. -/
def inheritsAnswer (context : LookupContext) (request : LookupRequest) (type : SymbolId) : Bool :=
  ((context.symbols.get? type).bind (·.base)).any fun base =>
    (context.inheritedMembers request.name maxBaseDepth base).any (context.matchesRequest request)

/-- Whether a new member of a type stands between the place of the request and an inherited answer:
its name is the asked one but for case, and it is not a method, which would leave the members of the
base types in sight. -/
def shadows (context : LookupContext) (request : LookupRequest) (container : SymbolId)
    (added : Symbol) :
    Bool :=
  !added.isMethod && Text.sameIgnoringCase added.name request.name &&
    ((context.scopes.enclosingTypes request.scope).any fun type =>
      context.symbols.derivesFrom type container) &&
    context.inheritsAnswer request container

variable {context : LookupContext} {request : LookupRequest}

/-- The members of a type come first, and those of its base types follow if none of them hides
those. -/
theorem inheritedMembers_succ {type : SymbolId} {symbol : Symbol}
    (found : context.symbols.get? type = some symbol) (name : String) (levels : Nat) :
    context.inheritedMembers name (levels + 1) type =
      symbol.membersNamed name ++
        if context.hidesBase name symbol then []
        else (symbol.base.map (context.inheritedMembers name levels)).getD [] := by
  simp only [inheritedMembers, found]
  change (if context.hidesBase name symbol then symbol.membersNamed name else _) = _
  by_cases hidden : context.hidesBase name symbol = true
  · rw [if_pos hidden, if_pos hidden, List.append_nil]
  · rw [if_neg hidden, if_neg hidden]
    cases symbol.base with
    | none => exact (List.append_nil _).symm
    | some base => rfl

theorem mem_inheritedMembers_of_le {name : String} {levels more : Nat} (le : levels ≤ more)
    {type id : SymbolId} (member : id ∈ context.inheritedMembers name levels type) :
    id ∈ context.inheritedMembers name more type := by
  induction levels generalizing more type with
  | zero => cases member
  | succ levels ih =>
    obtain ⟨more, rfl⟩ : ∃ fewer, more = fewer + 1 := ⟨more - 1, by omega⟩
    cases found : context.symbols.get? type with
    | none => simp [inheritedMembers, found] at member
    | some symbol =>
      rw [inheritedMembers_succ found] at member ⊢
      rcases List.mem_append.mp member with own | inherited
      · exact List.mem_append_left _ own
      · apply List.mem_append_right
        split
        · rename_i hidden
          simp [hidden] at inherited
        · rename_i visible
          cases link : symbol.base with
          | none => simp [visible, link] at inherited
          | some base =>
            simp only [visible, link, Option.map_some, Option.getD_some] at inherited ⊢
            exact ih (by omega) inherited

theorem filter_inherited_of_no_answer {levels : Nat} (low : levels ≤ maxBaseDepth) {type : SymbolId}
    {symbol : Symbol} (found : context.symbols.get? type = some symbol)
    (noAnswer : context.inheritsAnswer request type = false) :
    ((symbol.base.map (context.inheritedMembers request.name levels)).getD []).filter
      (context.matchesRequest request) = [] := by
  cases link : symbol.base with
  | none => rfl
  | some base =>
    simp only [inheritsAnswer, found, Option.bind_some, link, Option.any_some,
      List.any_eq_false] at noAnswer
    simp only [Option.map_some, Option.getD_some, List.filter_eq_nil_iff]
    intro id member
    exact noAnswer id (mem_inheritedMembers_of_le low member)

theorem matchesRequest_nextId : context.matchesRequest request context.symbols.nextId = false := by
  rw [matchesRequest, SymbolArena.satisfies, SymbolArena.get?_nextId]
  rfl

section

variable (request : LookupRequest) (container : SymbolId) (added : Symbol)

/-- The new symbol does not answer a request for another name, and all others answer it as
before. -/
theorem matchesRequest_declaring
    (other : context.options.namesEqual added.name request.name = false) :
    (context.declaring container added).matchesRequest request =
    context.matchesRequest request := by
  funext id
  cases found : context.symbols.get? id with
  | some symbol =>
    have known : (context.symbols.get? id).isSome = true := by rw [found]; rfl
    exact (context.symbols.grows_declareMember container added).satisfies_eq known fun _ _ _ => rfl
  | none =>
    simp only [matchesRequest, symbols_declaring, options_declaring, SymbolArena.satisfies,
      SymbolArena.get?_declareMember, found]
    by_cases new : id = context.symbols.nextId
    · by_cases inside : context.symbols.nextId = container <;> simp [new, inside, other]
    · simp [new]

/-- All that a request for another name can see of a declaration in a symbol that was there
before. -/
theorem declaring_seen (closed : context.Closed) {id : SymbolId} {symbol : Symbol}
    (found : context.symbols.get? id = some symbol) :
    ∃ members,
      (context.symbols.declareMember container added).get? id = some { symbol with members } ∧
      (members.named request.name).filter (context.matchesRequest request) =
        (symbol.membersNamed request.name).filter (context.matchesRequest request) ∧
      (context.declaring container added).hidesBase request.name { symbol with members } =
        (context.hidesBase request.name symbol ||
          decide (id = container ∧ Text.fold added.name = Text.fold request.name) &&
            !added.isMethod) := by
  have grows := context.symbols.grows_declareMember container added
  obtain ⟨members, kept, listed⟩ :=
    SymbolArena.membersNamed_declareMember found container added request.name
  have old : (symbol.membersNamed request.name).any
        ((context.symbols.declareMember container added).satisfies fun member => !member.isMethod) =
      context.hidesBase request.name symbol := by
    apply List.any_congr_of_mem
    intro member listed
    exact grows.satisfies_eq (closed.symbols.member found listed) fun _ _ _ => rfl
  have new : (context.symbols.declareMember container added).satisfies (fun member =>
      !member.isMethod)
      context.symbols.nextId = !added.isMethod := by
    by_cases inside : context.symbols.nextId = container <;>
      simp [SymbolArena.satisfies, SymbolArena.get?_declareMember, inside]
  refine ⟨members, kept, ?_, ?_⟩
  · rw [listed]
    split
    · simp [matchesRequest_nextId]
    · rfl
  · change (members.named request.name).any _ = _
    rw [listed, symbols_declaring]
    split
    · rename_i joined
      rw [List.any_append, List.any_cons, List.any_nil, Bool.or_false, old, new,
        decide_eq_true joined, Bool.true_and]
    · rename_i apart
      rw [old, decide_eq_false apart, Bool.false_and, Bool.or_false]

section

variable (closed : context.Closed) {id : SymbolId} (known : (context.symbols.get? id).isSome = true)

include closed known

theorem filter_containerMembers_declaring :
    ((context.declaring container added).containerMembers request.name id).filter
        (context.matchesRequest request) =
      (context.containerMembers request.name id).filter (context.matchesRequest request) := by
  obtain ⟨symbol, found⟩ := Option.isSome_iff_exists.mp known
  obtain ⟨members, kept, listed, _⟩ := declaring_seen request container added closed found
  simp only [containerMembers, symbols_declaring, kept, found]
  exact listed

theorem filter_importedMembers_declaring :
    ((context.declaring container added).importedMembers request.name id).filter
        (context.matchesRequest request) =
      (context.importedMembers request.name id).filter (context.matchesRequest request) := by
  have grows := context.symbols.grows_declareMember container added
  -- The answers may be picked out before those that an import makes visible.
  have reordered (test : SymbolId → Bool) (ids : List SymbolId) :
      (ids.filter test).filter (context.matchesRequest request) =
        (ids.filter (context.matchesRequest request)).filter test := by
    simp only [List.filter_filter, Bool.and_comm]
  rw [importedMembers, importedMembers, reordered, reordered,
    filter_containerMembers_declaring request container added closed known]
  apply List.filter_congr
  intro member listed
  exact grows.satisfies_eq (known_of_matchesRequest (List.mem_filter.mp listed).2) fun _ _ _ => rfl

end

theorem filter_inheritedMembers_declaring (closed : context.Closed) {levels : Nat}
    (low : levels ≤ maxBaseDepth) {type : SymbolId}
    (known : (context.symbols.get? type).isSome = true)
    (clear : added.isMethod = false → Text.fold added.name = Text.fold request.name →
      context.symbols.derivesWithin container levels type = true →
        context.inheritsAnswer request container = false) :
    ((context.declaring container added).inheritedMembers request.name levels type).filter
        (context.matchesRequest request) =
      (context.inheritedMembers request.name levels type).filter
      (context.matchesRequest request) := by
  induction levels generalizing type with
  | zero => rfl
  | succ levels ih =>
    obtain ⟨symbol, found⟩ := Option.isSome_iff_exists.mp known
    obtain ⟨members, kept, listed, hides⟩ := declaring_seen request container added closed found
    have beyond :
        ((symbol.base.map
          ((context.declaring container added).inheritedMembers request.name levels)).getD
            []).filter (context.matchesRequest request) =
          ((symbol.base.map (context.inheritedMembers request.name levels)).getD []).filter
            (context.matchesRequest request) := by
      cases link : symbol.base with
      | none => rfl
      | some base =>
        apply ih (by omega) (closed.symbols.base found link)
        intro value folded derives
        exact clear value folded (by simp [SymbolArena.derivesWithin, found, link, derives])
    have here : (context.declaring container added).symbols.get? type =
        some { symbol with members } := kept
    rw [inheritedMembers_succ here, inheritedMembers_succ found, List.filter_append,
      List.filter_append, hides]
    congr 1
    -- The way along the base types can end anew at the container alone, and behind that there is no
    -- answer.
    by_cases hidden : context.hidesBase request.name symbol = true
    · simp [hidden]
    · rw [Bool.eq_false_iff.mpr hidden, Bool.false_or, if_neg Bool.false_ne_true]
      split
      · rename_i joined
        simp only [Bool.and_eq_true, decide_eq_true_eq, Bool.not_eq_eq_eq_not,
          Bool.not_true] at joined
        obtain ⟨⟨rfl, folded⟩, value⟩ := joined
        have noAnswer := clear value folded (by simp [SymbolArena.derivesWithin])
        exact (filter_inherited_of_no_answer (by omega) found noAnswer).symm
      · exact beyond

/-- A scope around the place of a request offers the same answers, unless the new symbol hides
some. -/
theorem filter_offered_declaring (closed : context.Closed) {id : ScopeId}
    (encloses : id ∈ context.scopes.chain request.scope) {scope : Scope}
    (found : context.scopes.get? id = some scope)
    (clear : context.shadows request container added = false) :
    ((context.declaring container added).offered scope request.name).filter
        (context.matchesRequest request) =
      (context.offered scope request.name).filter (context.matchesRequest request) := by
  simp only [offered, List.filter_append]
  congr 1
  cases kind : scope.kind with
  | block | methodBody => rfl
  | typeBody =>
    cases link : scope.container with
    | none => rfl
    | some type =>
      apply filter_inheritedMembers_declaring request container added closed
        (Nat.le_refl maxBaseDepth)
        (closed.container found link)
      intro value folded derives
      have enclosing : type ∈ context.scopes.enclosingTypes request.scope :=
        List.mem_filterMap.mpr ⟨id, encloses, by simp [found, kind, link, guard]⟩
      have between : ((context.scopes.enclosingTypes request.scope).any fun type =>
          context.symbols.derivesFrom type container) = true :=
        List.any_eq_true.mpr ⟨type, enclosing, derives⟩
      have same := (Text.sameIgnoringCase_iff added.name request.name).mpr folded
      simpa [shadows, value, same, between] using clear
  | namespaceBody =>
    simp only [List.filter_append, List.filter_flatMap]
    congr 1
    · cases link : scope.container with
      | none => rfl
      | some owner =>
        exact filter_containerMembers_declaring request container added closed
          (closed.container found link)
    · apply List.flatMap_congr
      intro imported member
      have known := closed.link found (List.mem_append_right _ member)
      exact filter_importedMembers_declaring request container added closed known

theorem lookupInScope_declaring (closed : context.Closed)
    (other : context.options.namesEqual added.name request.name = false)
    (clear : context.shadows request container added = false) {scope : ScopeId}
    (encloses : scope ∈ context.scopes.chain request.scope) :
    (context.declaring container added).lookupInScope request scope =
    context.lookupInScope request scope :=
  lookupInScope_withSymbols closed (context.symbols.grows_declareMember container added)
    (matchesRequest_declaring request container added other)
    fun _ found => filter_offered_declaring request container added closed encloses found clear

end

theorem matchesRequest_of_invocable {id : SymbolId}
    (taken : context.matchesRequest request.invocable id = true) :
    context.matchesRequest request id = true := by
  obtain ⟨symbol, found, named, admitted, _⟩ := (answers_of_matchesRequest taken).of_invocable
  exact SymbolArena.satisfies_iff.mpr ⟨symbol, found, by rw [named, admitted]; rfl⟩

theorem inheritsAnswer_of_invocable {type : SymbolId}
    (answered : context.inheritsAnswer request.invocable type = true) :
    context.inheritsAnswer request type = true := by
  simp only [inheritsAnswer, Option.any_eq_true, List.any_eq_true] at answered ⊢
  obtain ⟨base, link, id, member, taken⟩ := answered
  exact ⟨base, link, id, member, matchesRequest_of_invocable taken⟩

theorem shadows_invocable {container : SymbolId} {added : Symbol}
    (clear : context.shadows request container added = false) :
    context.shadows request.invocable container added = false := by
  rw [Bool.eq_false_iff] at clear ⊢
  intro shadowed
  apply clear
  simp only [shadows, Bool.and_eq_true] at shadowed ⊢
  exact ⟨shadowed.1, inheritsAnswer_of_invocable shadowed.2⟩

/-- Names that are equal but for case are the same name unless case counts. -/
theorem shadows_of_ignoring_case {container : SymbolId} {added : Symbol}
    (other : context.options.namesEqual added.name request.name = false)
    (ignoring : context.options.caseSensitive = false) :
    context.shadows request container added = false := by
  have apart : Text.sameIgnoringCase added.name request.name = false := by
    simpa [Options.namesEqual, ignoring] using other
  simp [shadows, apart]

/-- Symbols with other names do not influence a lookup: a declaration leaves its outcome as it is,
in whatever container it is made. Where case counts, it must not stand between the place of the
lookup and an inherited answer under a name that differs in case alone. -/
theorem lookup_unaffected_by_other_name (closed : context.Closed) {container : SymbolId}
    {added : Symbol} (other : context.options.namesEqual added.name request.name = false)
    (clear : context.options.caseSensitive = true → context.shadows request container added = false)
    (place : ReportPlace) (bag : DiagnosticBag) :
    ((context.declaring container added).lookup request place bag).1 =
      (context.lookup request place bag).1 := by
  have unshadowed : context.shadows request container added = false := by
    cases sensitive : context.options.caseSensitive with
    | true => exact clear sensitive
    | false => exact shadows_of_ignoring_case other sensitive
  apply search_withSymbols closed (context.symbols.grows_declareMember container added)
  · intro scope encloses
    exact lookupInScope_declaring request container added closed other unshadowed encloses
  · intro scope encloses
    exact lookupInScope_declaring request.invocable container added closed other
      (shadows_invocable unshadowed) encloses

/-- A class with a field `size`, and the body of a class derived from it, where case counts. -/
def derivedContext : LookupContext where
  symbols :=
    let base := (SymbolArena.mk #[]).alloc { name := "Base", flags := .classType }
    let sized := base.declareMember ⟨0⟩ { name := "size", flags := .field }
    sized.alloc { name := "Derived", flags := .classType, base := some ⟨0⟩ }
  scopes := (ScopeArena.mk #[]).add .typeBody none (some ⟨2⟩)
  options := .forDialect .core

def sizeRequest : LookupRequest := { name := "size", scope := ⟨0⟩ }

theorem derivedContext_closed : derivedContext.Closed := by
  constructor
  · decide
  · decide
  · decide

/-- A method under a name in other case leaves the inherited field in sight. -/
theorem size_found_beside_method :
    derivedContext.options.caseSensitive = true ∧
      derivedContext.options.namesEqual "SIZE" sizeRequest.name = false ∧
      derivedContext.shadows sizeRequest ⟨2⟩ { name := "SIZE", flags := .method } = false ∧
      ((derivedContext.declaring ⟨2⟩ { name := "SIZE", flags := .method }).lookup sizeRequest
        ⟨"", .dummy⟩ {}).1 =
        ⟨⟨.viable, [⟨1⟩], none⟩, some ⟨0⟩⟩ := by
  have other : derivedContext.options.namesEqual "SIZE" sizeRequest.name = false := by decide
  have clear : derivedContext.shadows sizeRequest ⟨2⟩ { name := "SIZE", flags := .method } =
      false := by decide
  refine ⟨rfl, other, clear, ?_⟩
  rw [lookup_unaffected_by_other_name derivedContext_closed other fun _ => clear]
  decide

/-- A field under a name in other case hides the inherited one, though case counts and it answers no
request for that name. -/
theorem size_hidden_by_other_case :
    derivedContext.Closed ∧ (derivedContext.symbols.get? ⟨2⟩).isSome = true ∧
      derivedContext.options.namesEqual "SIZE" sizeRequest.name = false ∧
      (derivedContext.lookup sizeRequest ⟨"", .dummy⟩ {}).1 = ⟨⟨.viable, [⟨1⟩], none⟩, some ⟨0⟩⟩ ∧
      ((derivedContext.declaring ⟨2⟩ { name := "SIZE", flags := .field }).lookup sizeRequest
        ⟨"", .dummy⟩ {}).1 =
        ⟨.empty, none⟩ :=
  ⟨derivedContext_closed, by decide, by decide, by decide, by decide⟩

end DialectBinder.LookupContext
