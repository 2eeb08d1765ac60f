import DialectBinder.Proofs.LookupGrowth
import DialectBinder.Proofs.Retry

/-! Looking up and reporting are apart. What a name means does not depend on whether, from where and
into which bag problems are reported, and where case does not count it does not depend on the case
of the name either. -/

namespace DialectBinder

/-- The same question, with or without a report. -/
def LookupRequest.reporting (request : LookupRequest) (diagnose : Bool) : LookupRequest :=
  { request with filter := { request.filter with diagnose } }

/-- The same question in other letters. -/
def LookupRequest.renamed (request : LookupRequest) (name : String) : LookupRequest :=
  { request with name }

/-- Two requests that differ at most in whether to report and in letters which the options do not
tell apart. -/
structure LookupRequest.Alike (options : Options) (first second : LookupRequest) : Prop where
  arity : first.arity = second.arity
  scope : first.scope = second.scope
  filter : { first.filter with diagnose := second.filter.diagnose } = second.filter
  folded : Text.fold first.name = Text.fold second.name
  compared : ∀ name, options.namesEqual name first.name = options.namesEqual name second.name

namespace LookupRequest

variable {options : Options} {first second : LookupRequest}

theorem alike_reporting (options : Options) (request : LookupRequest) (diagnose : Bool) :
    (request.reporting diagnose).Alike options request :=
  ⟨rfl, rfl, rfl, rfl, fun _ => rfl⟩

theorem alike_renamed (ignoringCase : options.caseSensitive = false)
    {request : LookupRequest} {name : String}
    (same : Text.sameIgnoringCase name request.name = true) :
    (request.renamed name).Alike options request where
  arity := rfl
  scope := rfl
  filter := rfl
  folded := (Text.sameIgnoringCase_iff name request.name).mp same
  compared other := by
    have folded : Text.fold name = Text.fold request.name :=
      (Text.sameIgnoringCase_iff name request.name).mp same
    simp [Options.namesEqual, ignoringCase, Text.sameIgnoringCase, renamed, folded]

theorem Alike.invocable (alike : first.Alike options second) :
    first.invocable.Alike options second.invocable where
  arity := alike.arity
  scope := alike.scope
  filter :=
    congrArg (fun filter : LookupFilter => { filter with mustBeInvocable := true }) alike.filter
  folded := alike.folded
  compared := alike.compared

theorem Alike.admits_eq (alike : first.Alike options second) (symbol : Symbol) :
    first.filter.admits first.arity symbol = second.filter.admits second.arity symbol := by
  rw [← alike.filter, alike.arity]
  rfl

end LookupRequest

namespace LookupContext

variable {context : LookupContext}

section

variable {first second : String} (folded : Text.fold first = Text.fold second)

include folded

/-- Members are kept under folded names, so that case plays no part in what a container offers. -/
theorem named_congr (table : NameTable) : table.named first = table.named second := by
  rw [NameTable.named, NameTable.named, folded]

theorem inheritedMembers_congr (levels : Nat) (type : SymbolId) :
    context.inheritedMembers first levels type = context.inheritedMembers second levels type := by
  induction levels generalizing type with
  | zero => rfl
  | succ levels ih =>
    cases found : context.symbols.get? type with
    | none => simp only [inheritedMembers, found]
    | some symbol =>
      have own : symbol.membersNamed first = symbol.membersNamed second :=
        named_congr folded symbol.members
      simp only [inheritedMembers, found, own, ih]

theorem offered_congr (scope : Scope) :
    context.offered scope first = context.offered scope second := by
  have members : context.containerMembers first = context.containerMembers second := by
    funext container
    simp only [containerMembers, Symbol.membersNamed, named_congr folded]
  have imported : context.importedMembers first = context.importedMembers second := by
    funext container
    simp only [importedMembers, members]
  simp only [offered, Scope.localsNamed, named_congr folded, inheritedMembers_congr folded,
    members, imported]

end

section

variable {first second : LookupRequest} (alike : first.Alike context.options second)

include alike

theorem matchesRequest_congr : context.matchesRequest first = context.matchesRequest second := by
  simp only [matchesRequest, alike.compared, alike.admits_eq]

theorem lookupInScope_congr : context.lookupInScope first = context.lookupInScope second := by
  funext scope
  simp only [lookupInScope, offered_congr alike.folded, matchesRequest_congr alike, alike.scope]

theorem visit_congr : context.visit first = context.visit second := by
  funext reached scope
  simp only [visit, lookupInScope_congr alike]

theorem walk_congr (scopes : List ScopeId) (reached : LookupOutcome) :
    context.walk first reached scopes = context.walk second reached scopes := by
  induction scopes generalizing reached with
  | nil => rfl
  | cons scope outer ih => simp only [walk, visit_congr alike, ih]

theorem freeFunctions_congr : context.freeFunctions first = context.freeFunctions second := by
  have offers : context.outsideResult? first.invocable =
      context.outsideResult? second.invocable := by
    funext scope
    simp only [outsideResult?, lookupInScope_congr alike.invocable]
  have instances : first.filter.mustBeInstance = second.filter.mustBeInstance := by
    rw [← alike.filter]
  have methods : first.filter.mustNotBeMethod = second.filter.mustNotBeMethod := by
    rw [← alike.filter]
  rw [freeFunctions_eq, freeFunctions_eq, alike.scope, offers, instances, methods]

theorem search_congr : context.search first = context.search second := by
  simp only [search, walked, scopeWalk, walk_congr alike, freeFunctions_congr alike, alike.scope]

end

theorem reports_of_silent {request : LookupRequest} (silent : request.filter.diagnose = false)
    (place : ReportPlace) :
    context.reports request place = [] := by
  simp [reports, silent]

/-- The outcome of a lookup is the same with and without a report, from any place and into any bag.
A lookup that does not report leaves the bag alone, one that is repeated adds nothing to it, and in
options without regard to case every spelling of a name has the same outcome. -/
theorem lookup_unaffected_by_reporting (context : LookupContext) (request : LookupRequest) :
    (∀ diagnose place otherPlace bag otherBag,
      (context.lookup (request.reporting diagnose) place bag).1 =
        (context.lookup request otherPlace otherBag).1) ∧
    (∀ place bag, request.filter.diagnose = false → (context.lookup request place bag).2 = bag) ∧
    (∀ place bag,
      context.lookup request place (context.lookup request place bag).2 =
        context.lookup request place bag) ∧
    (context.options.caseSensitive = false →
      ∀ name, Text.sameIgnoringCase name request.name = true →
      ∀ place otherPlace bag otherBag,
        (context.lookup (request.renamed name) place bag).1 =
          (context.lookup request otherPlace otherBag).1) := by
  refine ⟨?_, ?_, ?_, ?_⟩
  · intro diagnose _ _ _ _
    exact search_congr (LookupRequest.alike_reporting context.options request diagnose)
  · intro place bag silent
    simp only [lookup, reports_of_silent silent]
    rfl
  · intro place bag
    simp only [lookup, DiagnosticBag.extend_again]
  · intro ignoringCase name same _ _ _ _
    exact search_congr (LookupRequest.alike_renamed ignoringCase same)

/-- A namespace that imports a class with a private field. -/
def vaultContext : LookupContext where
  symbols :=
    let vault := (SymbolArena.mk #[]).alloc { name := "Vault", flags := .classType }
    vault.declareMember ⟨0⟩
      { name := "Balance", flags := .union .field .static, accessibility := .privateAccess }
  scopes := ((ScopeArena.mk #[]).add .namespaceBody none none).importStatic ⟨0⟩ ⟨0⟩
  options := .forDialect .vo

def vaultRequest : LookupRequest :=
  { name := "balance", scope := ⟨0⟩, filter := { diagnose := true } }

def vaultPlace : ReportPlace := ⟨"vault.prg", ⟨4, 7⟩⟩

/-- The field is out of reach, which is reported once however often it is asked for. A lookup in
other letters that reports nothing has the same outcome. -/
theorem vault_reported_once :
    (vaultContext.lookup vaultRequest vaultPlace {}).2.size = 1 ∧
      (vaultContext.lookup vaultRequest vaultPlace
        (vaultContext.lookup vaultRequest vaultPlace {}).2).2.size = 1 ∧
      vaultContext.options.caseSensitive = false ∧
        Text.sameIgnoringCase "BALANCE" vaultRequest.name = true ∧
      (vaultContext.lookup (vaultRequest.renamed "BALANCE") vaultPlace {}).1 =
        (vaultContext.lookup (vaultRequest.reporting false) ⟨"", .dummy⟩ {}).1 ∧
      (vaultContext.lookup (vaultRequest.reporting false) ⟨"", .dummy⟩ {}).2 = {} := by
  have once : (vaultContext.lookup vaultRequest vaultPlace {}).2.size = 1 := rfl
  have ignoringCase : vaultContext.options.caseSensitive = false := rfl
  have spelling : Text.sameIgnoringCase "BALANCE" vaultRequest.name = true := by decide
  obtain ⟨reporting, _, again, renamed⟩ := lookup_unaffected_by_reporting vaultContext vaultRequest
  obtain ⟨_, silent, _, _⟩ :=
    lookup_unaffected_by_reporting vaultContext (vaultRequest.reporting false)
  refine ⟨once, ?_, ignoringCase, spelling, ?_, silent _ {} rfl⟩
  · rw [again vaultPlace {}, once]
  · exact (renamed ignoringCase "BALANCE" spelling _ vaultPlace {} {}).trans
      (reporting false _ vaultPlace {} {}).symm

end LookupContext

end DialectBinder
