import DialectBinder.Proofs.Lists
import DialectBinder.Proofs.LookupSoundness

/-! The form of a lookup result: its kind says how many symbols it holds and what they are, no
symbol is held twice, and the problem it names is that of its first symbols. -/

namespace DialectBinder

namespace LookupKind

/-- The symbols that a result of each kind may hold. -/
def Fits (arena : SymbolArena) : LookupKind → List SymbolId → Prop
  | .empty, symbols => symbols = []
  | .inaccessible, symbols => 1 ≤ symbols.length
  | .viable, symbols => symbols.length = 1
  | .multiViable, symbols => 2 ≤ symbols.length ∧ ∀ id ∈ symbols, arena.isMethod id = true
  | .ambiguous, symbols => 2 ≤ symbols.length ∧ ¬∀ id ∈ symbols, arena.isMethod id = true

/-- What a diagnostic about a result of this kind names. -/
def problem? : LookupKind → List SymbolId → Option LookupProblem
  | .ambiguous, first :: second :: _ => some (.ambiguous first second)
  | .inaccessible, first :: _ => some (.inaccessible first)
  | _, _ => none

section

variable {arena : SymbolArena} {kind : LookupKind} {symbols : List SymbolId}

theorem Fits.eq_empty_iff (fits : kind.Fits arena symbols) : kind = .empty ↔ symbols = [] := by
  cases kind with
  | empty => simpa [Fits] using fits
  | inaccessible | viable | multiViable | ambiguous =>
    constructor
    · nofun
    · rintro rfl
      simp [Fits] at fits

theorem Fits.append (fits : kind.Fits arena symbols)
    (joins : kind = .inaccessible ∨ kind = .ambiguous) (added : List SymbolId) :
    kind.Fits arena (symbols ++ added) := by
  rcases joins with rfl | rfl
  · simp only [Fits, List.length_append] at fits ⊢
    omega
  · obtain ⟨several, mixed⟩ := fits
    constructor
    · rw [List.length_append]
      omega
    · intro methods
      exact mixed fun id member => methods id (List.mem_append_left added member)

/-- The problem stays that of the inner symbols when outer ones join them. -/
theorem Fits.problem?_append (fits : kind.Fits arena symbols)
    (joins : kind = .inaccessible ∨ kind = .ambiguous) (added : List SymbolId) :
    kind.problem? (symbols ++ added) = kind.problem? symbols := by
  rcases joins with rfl | rfl
  · match symbols with
    | [] => simp [Fits] at fits
    | first :: rest => rfl
  · match symbols with
    | [] | [_] => simp [Fits] at fits
    | first :: second :: rest => rfl

end

end LookupKind

namespace LookupResult

/-- A result whose kind, symbols and problem agree. -/
structure WellFormed (arena : SymbolArena) (result : LookupResult) : Prop where
  distinct : result.symbols.Nodup
  fits : result.kind.Fits arena result.symbols
  named : result.problem = result.kind.problem? result.symbols

theorem union_eq_append (symbols more : List SymbolId) :
    ∃ added, union symbols more = symbols ++ added := by
  unfold union
  induction more generalizing symbols with
  | nil => exact ⟨[], by simp⟩
  | cons first rest ih =>
    rw [List.foldl_cons]
    obtain ⟨added, extended⟩ := ih (if symbols.contains first then symbols else symbols ++ [first])
    rw [extended]
    split
    · exact ⟨added, rfl⟩
    · exact ⟨first :: added, by simp⟩

theorem nodup_union {symbols : List SymbolId} (distinct : symbols.Nodup) (more : List SymbolId) :
    (union symbols more).Nodup := by
  unfold union
  induction more generalizing symbols with
  | nil => exact distinct
  | cons first rest ih =>
    rw [List.foldl_cons]
    apply ih
    split
    · exact distinct
    · rename_i absent
      have fresh : first ∉ symbols := by simpa using absent
      refine List.nodup_append.mpr ⟨distinct, by simp, ?_⟩
      intro id held other last same
      have new : other = first := by simpa using last
      exact fresh (new ▸ same ▸ held)

section

variable {arena : SymbolArena} {result outer : LookupResult}

theorem wellFormed_empty (arena : SymbolArena) : empty.WellFormed arena := ⟨.nil, rfl, rfl⟩

theorem wellFormed_ofViable {symbols : List SymbolId} (distinct : symbols.Nodup) :
    (ofViable arena symbols).WellFormed arena := by
  unfold ofViable
  split
  · exact wellFormed_empty arena
  · exact ⟨distinct, rfl, rfl⟩
  · split
    · rename_i methods
      exact ⟨distinct, ⟨by simp, List.all_eq_true.mp methods⟩, rfl⟩
    · rename_i mixed
      exact ⟨distinct, ⟨by simp, fun methods => mixed (List.all_eq_true.mpr methods)⟩, rfl⟩

theorem wellFormed_ofCandidates {viable inaccessible : List SymbolId} (usable : viable.Nodup)
    (unusable : inaccessible.Nodup) :
    (ofCandidates arena viable inaccessible).WellFormed arena := by
  unfold ofCandidates
  split
  · exact wellFormed_empty arena
  · exact ⟨unusable, by simp [LookupKind.Fits], rfl⟩
  · exact wellFormed_ofViable usable

theorem WellFormed.isEmpty_iff (formed : result.WellFormed arena) :
    result.isEmpty = true ↔ result.symbols = [] := by
  rw [isEmpty, beq_iff_eq]
  exact formed.fits.eq_empty_iff

theorem WellFormed.validate_ok (formed : result.WellFormed arena) : result.validate = .ok () := by
  have agree : result.isEmpty = result.symbols.isEmpty := by
    rw [Bool.eq_iff_iff, formed.isEmpty_iff, List.isEmpty_iff]
  simp [validate, agree]

theorem two_le_rank_ofViable (arena : SymbolArena) {symbols : List SymbolId}
    (present : symbols ≠ []) :
    2 ≤ (ofViable arena symbols).kind.rank := by
  unfold ofViable
  split
  · exact absurd rfl present
  · exact Nat.le_refl 2
  · split
    · exact Nat.le_refl 2
    · exact Nat.le_succ 2

theorem isSettled_iff :
    result.isSettled = true ↔ result.kind = .viable ∨ result.kind = .multiViable := by
  simp [isSettled]

theorem rank_eq_two_of_isSettled (settled : result.isSettled = true) : result.kind.rank = 2 := by
  rcases isSettled_iff.mp settled with viable | group
  · rw [viable]; rfl
  · rw [group]; rfl

theorem isEmpty_iff_rank : result.isEmpty = true ↔ ¬1 ≤ result.kind.rank := by
  rw [isEmpty, beq_iff_eq]
  cases result.kind <;> decide

/-- Two results that combine without being settled are both inaccessible or both ambiguous. -/
theorem joins_of_rank_eq (same : outer.kind.rank = result.kind.rank)
    (present : outer.isEmpty = false) (unsettled : result.isSettled = false) :
    result.kind = .inaccessible ∨
    result.kind = .ambiguous := by
  simp only [isEmpty, isSettled, beq_eq_false_iff_ne, Bool.or_eq_false_iff] at present unsettled
  cases kind : result.kind with
  | empty => exact absurd (LookupKind.eq_empty_of_rank (same.trans (congrArg _ kind))) present
  | inaccessible => exact .inl rfl
  | ambiguous => exact .inr rfl
  | viable => exact absurd kind unsettled.1
  | multiViable => exact absurd kind unsettled.2

/-- One join keeps the form, also where an ambiguity takes in the symbols of outer scopes. -/
theorem WellFormed.merge (formed : result.WellFormed arena) (added : outer.WellFormed arena) :
    (result.merge arena outer).WellFormed arena := by
  unfold LookupResult.merge
  split
  · exact added
  · split
    · rename_i combined
      obtain ⟨same, present⟩ := combined
      have distinct := nodup_union formed.distinct outer.symbols
      simp only
      split
      · exact wellFormed_ofViable distinct
      · rename_i unsettled
        have joins := joins_of_rank_eq same (by simpa using present) (by simpa using unsettled)
        obtain ⟨new, extended⟩ := union_eq_append result.symbols outer.symbols
        rw [extended] at distinct ⊢
        exact ⟨distinct, formed.fits.append joins new,
          formed.named.trans (formed.fits.problem?_append joins new).symm⟩
    · exact formed

/-- A join reaches the rank of inaccessible or of usable symbols if one of the two results does. -/
theorem WellFormed.le_rank_merge_iff (formed : result.WellFormed arena)
    (outer : LookupResult) {level : Nat} (low : level ≤ 2) :
    level ≤ (result.merge arena outer).kind.rank ↔
      level ≤ result.kind.rank ∨ level ≤ outer.kind.rank := by
  unfold LookupResult.merge
  split
  · omega
  · split
    · rename_i combined
      obtain ⟨same, _⟩ := combined
      simp only
      split
      · rename_i settled
        have two := rank_eq_two_of_isSettled settled
        have present : result.symbols ≠ [] := by
          rw [ne_eq, ← formed.isEmpty_iff, isEmpty_iff_rank]
          omega
        obtain ⟨new, extended⟩ := union_eq_append result.symbols outer.symbols
        have joined : 2 ≤ (ofViable arena (union result.symbols outer.symbols)).kind.rank := by
          apply two_le_rank_ofViable arena
          rw [extended]
          exact List.append_ne_nil_of_left_ne_nil present new
        omega
      · show level ≤ result.kind.rank ↔ _
        omega
    · omega

end

end LookupResult

namespace LookupContext

variable (context : LookupContext) (request : LookupRequest)

theorem lookupInScope_wellFormed (scope : ScopeId) :
    (context.lookupInScope request scope).WellFormed context.symbols := by
  unfold lookupInScope
  split
  · exact LookupResult.wellFormed_empty context.symbols
  · rename_i found _
    have distinct :=
      (List.nodup_eraseDups (context.offered found request.name)).filter
      (context.matchesRequest request)
    exact LookupResult.wellFormed_ofCandidates (distinct.filter _) (distinct.filter _)

theorem walked_wellFormed : (context.walked request).WellFormed context.symbols :=
  walk_preserves (fun _ scope reached =>
    reached.merge (context.lookupInScope_wellFormed request scope)) _
    (LookupResult.wellFormed_empty context.symbols)

theorem le_rank_walk_iff (scopes : List ScopeId) {reached : LookupOutcome}
    (formed : reached.result.WellFormed context.symbols) {level : Nat} (low : level ≤ 2) :
    level ≤ (context.walk request reached scopes).result.kind.rank ↔
      level ≤ reached.result.kind.rank ∨
        ∃ scope ∈ scopes, level ≤ (context.lookupInScope request scope).kind.rank := by
  induction scopes generalizing reached with
  | nil => simp [walk]
  | cons scope outer ih =>
    have joinedFormed := formed.merge (context.lookupInScope_wellFormed request scope)
    have joinedRank := formed.le_rank_merge_iff (context.lookupInScope request scope) low
    rw [← result_visit] at joinedFormed joinedRank
    simp only [List.mem_cons, exists_eq_or_imp, ← or_assoc, ← joinedRank]
    simp only [walk]
    split
    · rename_i settled
      have two := LookupResult.rank_eq_two_of_isSettled settled
      have reaches : level ≤ (context.visit request reached scope).result.kind.rank := by omega
      simp [reaches]
    · exact ih joinedFormed

theorem le_rank_walked_iff {level : Nat} (positive : 1 ≤ level) (low : level ≤ 2) :
    level ≤ (context.walked request).kind.rank ↔
      ∃ scope ∈ context.scopes.chain request.scope,
        level ≤ (context.lookupInScope request scope).kind.rank := by
  have empty : (LookupOutcome.mk .empty none).result.WellFormed context.symbols :=
    LookupResult.wellFormed_empty context.symbols
  have walk := context.le_rank_walk_iff request (context.scopes.chain request.scope) empty low
  have nothing : ¬level ≤ LookupResult.empty.kind.rank := Nat.not_le_of_lt positive
  simpa [walked, scopeWalk, nothing] using walk

theorem nodup_freeFunctions : (context.freeFunctions request).Nodup := by
  rcases freeFunctions_cases context request with nothing | ⟨scope, _, _, functions⟩
  · rw [nothing]
    exact .nil
  · rw [functions]
    exact (context.lookupInScope_wellFormed request.invocable scope).distinct.filter _

variable {context} in
/-- Functions displace at least as many symbols as they are, so they never take the place of
nothing. -/
theorem functionsDisplace_nonempty {result : LookupResult} {functions : List SymbolId}
    (displaced : context.functionsDisplace result functions = true) :
    functions ≠ [] ∧ result.symbols ≠ [] := by
  simp only [functionsDisplace, Bool.and_eq_true, Bool.or_eq_true, beq_iff_eq,
    decide_eq_true_eq] at displaced
  obtain ⟨⟨present, _⟩, counts⟩ := displaced
  have functionsPresent : functions ≠ [] := by simpa using present
  have covered : functions.length ≤ result.symbols.length := by
    rcases counts with ⟨equal, _⟩ | ⟨⟨fewer, _⟩, _⟩
    · exact Nat.le_of_eq equal
    · exact Nat.le_of_lt fewer
  refine ⟨functionsPresent, ?_⟩
  rw [← List.length_pos_iff] at functionsPresent ⊢
  exact Nat.lt_of_lt_of_le functionsPresent covered

variable {context} in
theorem reconcile_wellFormed {result : LookupResult} {functions : List SymbolId}
    (formed : result.WellFormed context.symbols) (distinct : functions.Nodup) :
    (context.reconcile result functions).WellFormed context.symbols := by
  unfold reconcile
  split
  · exact LookupResult.wellFormed_ofViable distinct
  · exact formed

variable {context} in
theorem reconcile_isEmpty {result : LookupResult} (formed : result.WellFormed context.symbols)
    (functions : List SymbolId) :
    (context.reconcile result functions).isEmpty = true ↔ result.isEmpty = true := by
  unfold reconcile
  split
  · rename_i displaced
    obtain ⟨functionsPresent, resultPresent⟩ := functionsDisplace_nonempty displaced
    have usable := LookupResult.two_le_rank_ofViable context.symbols functionsPresent
    rw [formed.isEmpty_iff, LookupResult.isEmpty_iff_rank]
    constructor
    · intro empty
      omega
    · intro empty
      exact absurd empty resultPresent
  · exact Iff.rfl

theorem search_wellFormed : (context.search request).result.WellFormed context.symbols :=
  reconcile_wellFormed (context.walked_wellFormed request) (context.nodup_freeFunctions request)

/-- A walk that goes on keeps the scope that binds the name, or takes the next one with a result. -/
theorem bindingScope_walk (scopes : List ScopeId) {reached : LookupOutcome}
    (unsettled : reached.result.isSettled = false) :
    (context.walk request reached scopes).bindingScope =
      reached.bindingScope.or (scopes.find? fun scope =>
        !(context.lookupInScope request scope).isEmpty) := by
  induction scopes generalizing reached with
  | nil => exact Option.or_none.symm
  | cons scope outer ih =>
    rw [walk, List.find?_cons]
    by_cases nothing : (context.lookupInScope request scope).isEmpty = true
    · have passed : context.visit request reached scope = reached := if_pos nothing
      rw [passed, unsettled, nothing]
      exact ih unsettled
    · have taken : (context.visit request reached scope).bindingScope =
          reached.bindingScope.or (some scope) :=
        congrArg LookupOutcome.bindingScope (if_neg nothing)
      rw [Bool.not_eq_true] at nothing
      rw [nothing]
      split
      · exact taken
      · rename_i unsettledYet
        rw [ih (by simpa using unsettledYet), taken, Option.or_assoc]
        rfl

theorem bindingScope_search :
    (context.search request).bindingScope =
      (context.scopes.chain request.scope).find? fun scope =>
      !(context.lookupInScope request scope).isEmpty :=
  (context.bindingScope_walk request (context.scopes.chain request.scope) rfl).trans Option.none_or

/-- The binding scope is the innermost one with a result, so there is one unless nothing was
found. -/
theorem bindingScope_eq_none_iff :
    (context.search request).bindingScope = none ↔
      (context.search request).result.isEmpty = true := by
  calc (context.search request).bindingScope = none
      ↔ ∀ scope ∈ context.scopes.chain request.scope,
        (context.lookupInScope request scope).isEmpty = true := by
        simp [bindingScope_search]
    _ ↔ (context.walked request).isEmpty = true := by
        simp only [LookupResult.isEmpty_iff_rank,
          context.le_rank_walked_iff request (Nat.le_refl 1) (by decide)]
        simp
    _ ↔ (context.search request).result.isEmpty = true :=
        (reconcile_isEmpty (context.walked_wellFormed request) _).symm

/-- A lookup result holds no symbol twice, its kind tells how many symbols there are and of which
sort, and it names a problem exactly if it is ambiguous or inaccessible: that of its first symbols.
Nothing was found exactly if no scope binds the name. -/
theorem lookup_wellFormed (place : ReportPlace) (bag : DiagnosticBag) :
    (context.lookup request place bag).1.result.WellFormed context.symbols ∧
      ((context.lookup request place bag).1.result.kind = .empty ↔
        (context.lookup request place bag).1.result.symbols = []) ∧
      (context.lookup request place bag).1.result.validate = .ok () ∧
      ((context.lookup request place bag).1.bindingScope = none ↔
        (context.lookup request place bag).1.result.kind = .empty) := by
  have formed := context.search_wellFormed request
  refine ⟨formed, formed.fits.eq_empty_iff, formed.validate_ok, ?_⟩
  exact (context.bindingScope_eq_none_iff request).trans beq_iff_eq

end LookupContext

end DialectBinder
