import DialectBinder.Proofs.InvocationOutcome

/-! Which candidate an ambiguous call goes to. Where several candidates are beaten by none it is one
of these. Where there is only one, it may be passed over for a candidate that is beaten, since the
first two of the list are taken. -/

namespace DialectBinder

namespace OverloadResolver

section Places

variable (resolver : OverloadResolver) (candidates : List Member) (arguments : List Argument)

/-- The candidate at this place is beaten by no other, and all others are beaten. -/
def LoneUnbeatenAt (place : Nat) : Prop :=
  ∀ other, resolver.UnbeatenAt candidates arguments other ↔ other = place

variable {resolver candidates arguments} {first second : Nat}

theorem severalUnbeaten_or_lone {place : Nat}
    (unbeaten : resolver.UnbeatenAt candidates arguments place) :
    resolver.SeveralUnbeaten candidates arguments ∨
      resolver.LoneUnbeatenAt candidates arguments place := by
  by_cases several : resolver.SeveralUnbeaten candidates arguments
  · exact .inl several
  · refine .inr fun other => ⟨fun also => ?_, fun same => same ▸ unbeaten⟩
    by_contra different
    exact several ⟨other, place, different, also, unbeaten⟩

theorem LoneUnbeatenAt.not_several {place : Nat}
    (lone : resolver.LoneUnbeatenAt candidates arguments place) :
    ¬resolver.SeveralUnbeaten candidates arguments := by
  rintro ⟨one, other, different, unbeaten, also⟩
  exact different (((lone one).mp unbeaten).trans ((lone other).mp also).symm)

theorem LoneUnbeatenAt.not_unbeatenAt {place other : Nat}
    (lone : resolver.LoneUnbeatenAt candidates arguments place) (before : other < place) :
    ¬resolver.UnbeatenAt candidates arguments other :=
  fun unbeaten => Nat.ne_of_lt before ((lone other).mp unbeaten)

theorem ApplicableAt.exists_beats {place : Nat}
    (takes : resolver.ApplicableAt candidates arguments place)
    (beaten : ¬resolver.UnbeatenAt candidates arguments place) :
    ∃ rival, rival ≠ place ∧ resolver.BeatsAt candidates arguments rival place := by
  by_contra unrivalled
  refine beaten ⟨takes, fun other different _ beats => ?_⟩
  exact unrivalled ⟨other, different, beats⟩

theorem UnbeatenAt.exists_undecided {place : Nat}
    (unbeaten : resolver.UnbeatenAt candidates arguments place)
    (undecided : ¬resolver.BestAt candidates arguments place) :
    ∃ other, other ≠ place ∧ resolver.ApplicableAt candidates arguments other ∧
      ¬resolver.BeatsAt candidates arguments place other ∧
        ¬resolver.BeatsAt candidates arguments other place := by
  by_contra decided
  refine undecided ⟨unbeaten.1, fun other different takes => ?_⟩
  by_contra loses
  exact decided ⟨other, different, takes, loses, unbeaten.2 other different takes⟩

/-- With a single unbeaten candidate the first two of the list stand for the ambiguity. -/
theorem lowestTwo_of_lone
    (answered : resolver.resolve candidates arguments = .ambiguous first second) {place : Nat}
    (lone : resolver.LoneUnbeatenAt candidates arguments place) :
    LowestTwo (resolver.ApplicableAt candidates arguments) first second := by
  cases resolve_eq_iff.mp answered with
  | ambiguous _ _ otherwise => exact otherwise lone.not_several

theorem lowestTwo_of_several
    (answered : resolver.resolve candidates arguments = .ambiguous first second)
    (several : resolver.SeveralUnbeaten candidates arguments) :
    LowestTwo (resolver.UnbeatenAt candidates arguments) first second := by
  cases resolve_eq_iff.mp answered with
  | ambiguous _ unbeaten _ => exact unbeaten several

theorem not_bestAt_of_ambiguous
    (answered : resolver.resolve candidates arguments = .ambiguous first second) (place : Nat) :
    ¬resolver.BestAt candidates arguments place :=
  (resolve_ambiguous_iff.mp ⟨first, second, answered⟩).2 place

theorem le_of_lone
    (answered : resolver.resolve candidates arguments = .ambiguous first second) {place : Nat}
    (lone : resolver.LoneUnbeatenAt candidates arguments place) : first ≤ place := by
  have two := lowestTwo_of_lone answered lone
  have takes := ((lone place).mpr rfl).1
  have := two.lowest place takes
  have := two.increasing
  omega

/-- A call goes to a beaten candidate, although there is an unbeaten one, exactly if there is a
single unbeaten one and another candidate comes before it. -/
theorem first_unbeaten_iff
    (answered : resolver.resolve candidates arguments = .ambiguous first second) :
    ((∃ place, resolver.UnbeatenAt candidates arguments place) →
      resolver.UnbeatenAt candidates arguments first) ↔
      ¬∃ place, resolver.LoneUnbeatenAt candidates arguments place ∧ first < place := by
  constructor
  · rintro reported ⟨place, lone, before⟩
    exact lone.not_unbeatenAt before (reported ⟨place, (lone place).mpr rfl⟩)
  · rintro reported ⟨place, unbeaten⟩
    rcases severalUnbeaten_or_lone unbeaten with several | lone
    · exact (lowestTwo_of_several answered several).first_holds
    · have notBefore : ¬first < place := fun before => reported ⟨place, lone, before⟩
      have := le_of_lone answered lone
      exact (lone first).mpr (by omega)

theorem bindInvocation_of_ambiguous
    (answered : resolver.resolve candidates arguments = .ambiguous first second)
    {tables : BindingTables} {call : Invocation} (sameRules : tables.resolver = resolver)
    (sameCandidates : tables.overloads call = candidates)
    (sameArguments : call.arguments = arguments)
    (settled : (tables.calleeResult call).isSettled = true) (state : BindingState) :
    (tables.bindInvocation call state).1.resolution = .ambiguous first second ∧
      ∃ member, candidates[first]? = some member ∧
        (tables.bindInvocation call state).1.symbol = some member.symbol := by
  subst sameRules sameCandidates sameArguments
  have compared : tables.resolution call = .ambiguous first second := answered
  have chosen : (tables.resolution call).place? = some first := by rw [compared]; rfl
  obtain ⟨member, present, _⟩ := applicableAt_of_place? chosen
  have goes := tables.callee?_eq_some call settled chosen present
  refine ⟨?_, member, present, tables.bindInvocation_symbol call goes state⟩
  rw [tables.bindInvocation_eq, BindingTables.boundInvocation, goes]
  exact compared

/-- Where an ambiguous call goes. If several candidates are unbeaten, the lowest two of them are
named. If there is just one, the first two of the list are named. So the call, which goes to the
first that is named, goes to an unbeaten candidate where there is one, unless a single one comes
after other candidates; then it goes to a candidate that another one beats. The single one is not
the best, since it ties with some candidate. -/
theorem ambiguity_characterised
    (answered : resolver.resolve candidates arguments = .ambiguous first second) :
    (((∃ place, resolver.UnbeatenAt candidates arguments place) →
      resolver.UnbeatenAt candidates arguments first) ↔
      ¬∃ place, resolver.LoneUnbeatenAt candidates arguments place ∧ first < place) ∧
    (resolver.SeveralUnbeaten candidates arguments →
      LowestTwo (resolver.UnbeatenAt candidates arguments) first second) ∧
    (∀ place, resolver.LoneUnbeatenAt candidates arguments place →
      LowestTwo (resolver.ApplicableAt candidates arguments) first second ∧
      (first < place → ∃ rival, rival ≠ first ∧ resolver.BeatsAt candidates arguments rival first) ∧
      ∃ other, other ≠ place ∧ resolver.ApplicableAt candidates arguments other ∧
        ¬resolver.BeatsAt candidates arguments place other ∧
          ¬resolver.BeatsAt candidates arguments other place) ∧
    ∀ (tables : BindingTables) (call : Invocation) (state : BindingState),
      tables.resolver = resolver →
      tables.overloads call = candidates → call.arguments = arguments →
      (tables.calleeResult call).isSettled = true →
        (tables.bindInvocation call state).1.resolution = .ambiguous first second ∧
        ∃ member, candidates[first]? = some member ∧
          (tables.bindInvocation call state).1.symbol = some member.symbol := by
  refine ⟨first_unbeaten_iff answered, lowestTwo_of_several answered, ?_, ?_⟩
  · intro place lone
    have two := lowestTwo_of_lone answered lone
    refine ⟨two, fun before => ?_,
      ((lone place).mpr rfl).exists_undecided (not_bestAt_of_ambiguous answered place)⟩
    exact two.first_holds.exists_beats (lone.not_unbeatenAt before)
  · intro tables call state sameRules sameCandidates sameArguments settled
    exact bindInvocation_of_ambiguous answered sameRules sameCandidates sameArguments settled state

end Places

/-- Three procedures of one name. The second converts better than the first, and belongs to a legacy
runtime. -/
def logTables : BindingTables where
  types := .ofPointerSize 8
  symbols :=
    let journal := (SymbolArena.mk #[]).alloc { name := "Journal", flags := .classType }
    let general := journal.declareMember ⟨0⟩ { name := "Log", flags := .union .method .static }
    let legacy := general.declareMember ⟨0⟩ { name := "Log", flags := .union .method .static }
    legacy.declareMember ⟨0⟩ { name := "Log", flags := .union .method .static }
  scopes := (ScopeArena.mk #[]).add .typeBody none (some ⟨0⟩)
  assemblies := (AssemblyTable.ofCurrent "App").addReference "VulcanRT" true
  exprs := {}
  signatures := ⟨[
    { symbol := ⟨1⟩, name := "Log", container := "Journal",
      parameters :=
        [{ type := .object }, { type := .short }, { type := .objectArray, variadic := true }] },
    { symbol := ⟨2⟩, name := "Log", container := "Journal",
      parameters := [{ type := .long }, { type := .short }],
      assembly := ⟨1⟩ },
    { symbol := ⟨3⟩, name := "Log", container := "Journal",
      parameters := [{ type := .short }, { type := .long }] }]⟩
  options := .forDialect .core
  file := "journal.prg"

def logCall : Invocation :=
  { name := "Log", scope := ⟨0⟩, arguments := [{ type := .short }, { type := .short }] }

/-- The third procedure alone is unbeaten: it beats the second as one of a legacy runtime, and ties
with the first. -/
theorem log_lone_unbeaten :
    logTables.resolver.LoneUnbeatenAt (logTables.overloads logCall) logCall.arguments 2 := by
  have places : (logTables.resolver.unbeaten logCall.arguments
      (logTables.resolver.applicable (logTables.overloads logCall) logCall.arguments)).map
        (·.index) = [2] := by
    decide +kernel
  intro other
  rw [unbeatenAt_iff_mem, ← List.mem_map, places, List.mem_singleton]

/-- The call is reported as one of the first two, and goes to the first, which is beaten. -/
theorem log_goes_to_beaten :
    (∃ rival, rival ≠ 0 ∧
        logTables.resolver.BeatsAt (logTables.overloads logCall) logCall.arguments rival 0) ∧
      ∃ member, (logTables.overloads logCall)[0]? = some member ∧
        (logTables.bindInvocation logCall .initial).1.symbol = some member.symbol := by
  have answered : logTables.resolver.resolve (logTables.overloads logCall) logCall.arguments =
      .ambiguous 0 1 := by
    decide +kernel
  obtain ⟨_, _, single, called⟩ := ambiguity_characterised answered
  obtain ⟨_, beaten, _⟩ := single 2 log_lone_unbeaten
  exact ⟨beaten (by decide), (called logTables logCall .initial rfl rfl rfl (by decide +kernel)).2⟩

/-- A candidate is unbeaten, and yet the one that stands for the ambiguity is beaten. -/
theorem log_reported_without_unbeaten :
    logTables.resolver.resolve (logTables.overloads logCall) logCall.arguments = .ambiguous 0 1 ∧
      (∃ place, logTables.resolver.UnbeatenAt
        (logTables.overloads logCall) logCall.arguments place) ∧
      ¬logTables.resolver.UnbeatenAt (logTables.overloads logCall) logCall.arguments 0 := by
  exact ⟨by decide +kernel, ⟨2, (log_lone_unbeaten 2).mpr rfl⟩,
    log_lone_unbeaten.not_unbeatenAt (by decide)⟩

end OverloadResolver

end DialectBinder
