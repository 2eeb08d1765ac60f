import DialectBinder.Proofs.Betterness

/-! What overload resolution answers, said of places in the candidate list and without the search:
the answer follows a relation that allows one answer only. -/

namespace DialectBinder

/-- The two lowest places at which something holds. -/
structure LowestTwo (holds : Nat → Prop) (first second : Nat) : Prop where
  first_holds : holds first
  second_holds : holds second
  increasing : first < second
  lowest : ∀ place, holds place → place = first ∨ second ≤ place

theorem LowestTwo.unique (two : LowestTwo holds first second)
    (also : LowestTwo holds third fourth) :
    first = third ∧ second = fourth := by
  have := two.lowest third also.first_holds
  have := two.lowest fourth also.second_holds
  have := also.lowest first two.first_holds
  have := also.lowest second two.second_holds
  have := two.increasing
  have := also.increasing
  omega

/-- A list in the order of places starts with the lowest two. -/
theorem LowestTwo.of_increasing {pool rest : List ApplicableCandidate}
    {first second : ApplicableCandidate}
    (ordered : pool.Pairwise fun earlier later => earlier.index < later.index)
    (covers : ∀ place, holds place ↔ ∃ candidate ∈ pool, candidate.index = place)
    (listed : pool = first :: second :: rest) : LowestTwo holds first.index second.index := by
  subst pool
  refine ⟨(covers _).mpr ⟨first, by simp, rfl⟩, (covers _).mpr ⟨second, by simp, rfl⟩, ?_, ?_⟩
  · exact List.rel_of_pairwise_cons ordered (by simp)
  · intro place present
    obtain ⟨candidate, member, rfl⟩ := (covers place).mp present
    rcases List.mem_cons.mp member with rfl | later
    · exact .inl rfl
    · rcases List.mem_cons.mp later with rfl | last
      · exact .inr (Nat.le_refl _)
      · have after := List.rel_of_pairwise_cons (List.pairwise_cons.mp ordered).2 last
        exact .inr (Nat.le_of_lt after)

namespace OverloadResolver

section Places

variable (resolver : OverloadResolver) (candidates : List Member) (arguments : List Argument)

def SeveralUnbeaten : Prop :=
  ∃ place other, place ≠ other ∧ resolver.UnbeatenAt candidates arguments place ∧
    resolver.UnbeatenAt candidates arguments other

/-- The answers that the comparison of places allows. -/
inductive Resolves : Resolution → Prop where
  | noApplicable (absent : ∀ place, ¬resolver.ApplicableAt candidates arguments place) :
      Resolves .noApplicable
  | success (best : resolver.BestAt candidates arguments place)
      (tied : byTieBreak = true ↔
        ∃ other, other ≠ place ∧ resolver.ApplicableAt candidates arguments other ∧
        ¬resolver.DominatesAt candidates arguments place other)
      (flagged : ambiguous = true ↔ ∃ other decision, other ≠ place ∧
        resolver.WinsTieAt candidates arguments decision place other ∧
          decision.rule.isAmbiguous = true) :
      Resolves (.success place byTieBreak ambiguous)
  | ambiguous (undecided : ∀ place, ¬resolver.BestAt candidates arguments place)
      (unbeaten : resolver.SeveralUnbeaten candidates arguments →
        LowestTwo (resolver.UnbeatenAt candidates arguments) first second)
      (otherwise : ¬resolver.SeveralUnbeaten candidates arguments →
        LowestTwo (resolver.ApplicableAt candidates arguments) first second) :
      Resolves (.ambiguous first second)

variable {resolver candidates arguments}

/-- An ambiguity is one of two candidates that take the arguments. -/
theorem lowestTwo_applicable {first second : Nat}
    (unbeaten : resolver.SeveralUnbeaten candidates arguments →
      LowestTwo (resolver.UnbeatenAt candidates arguments) first second)
    (otherwise : ¬resolver.SeveralUnbeaten candidates arguments →
      LowestTwo (resolver.ApplicableAt candidates arguments) first second) :
    first < second ∧ resolver.ApplicableAt candidates arguments first ∧
      resolver.ApplicableAt candidates arguments second := by
  by_cases several : resolver.SeveralUnbeaten candidates arguments
  · have two := unbeaten several
    exact ⟨two.increasing, two.first_holds.1, two.second_holds.1⟩
  · have two := otherwise several
    exact ⟨two.increasing, two.first_holds, two.second_holds⟩

theorem Resolves.unique {one other : Resolution}
    (answer : resolver.Resolves candidates arguments one)
    (also : resolver.Resolves candidates arguments other) : one = other := by
  cases answer with
  | noApplicable absent =>
    cases also with
    | noApplicable _ => rfl
    | success best _ _ => exact False.elim (absent _ best.1)
    | ambiguous _ unbeaten otherwise =>
      exact False.elim (absent _ (lowestTwo_applicable unbeaten otherwise).2.1)
  | success best tied flagged =>
    cases also with
    | noApplicable absent => exact False.elim (absent _ best.1)
    | success alsoBest alsoTied alsoFlagged =>
      have same := best.unique alsoBest
      subst same
      have tieEq := Bool.eq_iff_iff.mpr (tied.trans alsoTied.symm)
      have flagEq := Bool.eq_iff_iff.mpr (flagged.trans alsoFlagged.symm)
      rw [tieEq, flagEq]
    | ambiguous undecided _ _ => exact False.elim (undecided _ best)
  | ambiguous undecided unbeaten otherwise =>
    cases also with
    | noApplicable absent =>
      exact False.elim (absent _ (lowestTwo_applicable unbeaten otherwise).2.1)
    | success best _ _ => exact False.elim (undecided _ best)
    | ambiguous _ alsoUnbeaten alsoOtherwise =>
      by_cases several : resolver.SeveralUnbeaten candidates arguments
      · obtain ⟨firsts, seconds⟩ := (unbeaten several).unique (alsoUnbeaten several)
        rw [firsts, seconds]
      · obtain ⟨firsts, seconds⟩ := (otherwise several).unique (alsoOtherwise several)
        rw [firsts, seconds]

theorem applicableAt_iff_mem {place : Nat} :
    resolver.ApplicableAt candidates arguments place ↔
      ∃ candidate ∈ resolver.applicable candidates arguments, candidate.index = place := by
  constructor
  · intro takes
    obtain ⟨candidate, rfl, found⟩ := takes.exists_candidate
    exact ⟨candidate, mem_applicable.mpr found, rfl⟩
  · rintro ⟨candidate, member, rfl⟩
    exact applicableAt_of_found (mem_applicable.mp member)

theorem mem_rivals {candidate rival : ApplicableCandidate} :
    rival ∈ rivals (resolver.applicable candidates arguments) candidate ↔
      resolver.candidateAt? candidates arguments rival.index = some rival ∧
        rival.index ≠ candidate.index := by
  simp [rivals, mem_applicable]

/-- The test of the search holds at the best place alone. -/
theorem beatsRivals_iff {candidate : ApplicableCandidate}
    (found : resolver.candidateAt? candidates arguments candidate.index = some candidate) :
    (rivals (resolver.applicable candidates arguments) candidate).all
      (resolver.beats arguments candidate) = true ↔
      resolver.BestAt candidates arguments candidate.index := by
  rw [List.all_eq_true]
  constructor
  · intro beatsAll
    refine ⟨applicableAt_of_found found, ?_⟩
    intro other different takes
    obtain ⟨rival, rfl, present⟩ := takes.exists_candidate
    exact (beatsAt_iff found present).mpr (beatsAll rival (mem_rivals.mpr ⟨present, different⟩))
  · intro best rival member
    obtain ⟨present, different⟩ := mem_rivals.mp member
    have better := best.2 rival.index different (applicableAt_of_found present)
    exact (beatsAt_iff found present).mp better

/-- A tie was broken for the best candidate wherever its conversions alone do not win. -/
theorem byTieBreak_iff {best : ApplicableCandidate}
    (found : resolver.candidateAt? candidates arguments best.index = some best)
    (wins : resolver.BestAt candidates arguments best.index) :
    ((rivals (resolver.applicable candidates arguments) best).map
      (resolver.compare arguments best)).any
        (·.byTieBreak) = true ↔
      ∃ other, other ≠ best.index ∧ resolver.ApplicableAt candidates arguments other ∧
        ¬resolver.DominatesAt candidates arguments best.index other := by
  simp only [List.any_map, List.any_eq_true, Function.comp_apply, compare_byTieBreak]
  constructor
  · rintro ⟨rival, member, tied⟩
    obtain ⟨present, different⟩ := mem_rivals.mp member
    refine ⟨rival.index, different, applicableAt_of_found present, ?_⟩
    simp [DominatesAt, found, present, tied]
  · rintro ⟨other, different, takes, undominated⟩
    obtain ⟨rival, rfl, present⟩ := takes.exists_candidate
    refine ⟨rival, mem_rivals.mpr ⟨present, different⟩, ?_⟩
    rcases wins.2 rival.index different takes with dominated | ⟨_, _, _, left, right, tied, _⟩
    · exact False.elim (undominated dominated)
    · simpa [Option.some.inj (found.symm.trans left),
        Option.some.inj (present.symm.trans right)] using tied

/-- The best candidate has won every tie, so a flagged comparison is a flagged victory. -/
theorem flagged_iff {best : ApplicableCandidate}
    (found : resolver.candidateAt? candidates arguments best.index = some best)
    (wins : resolver.BestAt candidates arguments best.index) :
    ((rivals (resolver.applicable candidates arguments) best).map
      (resolver.compare arguments best)).any
        (·.ambiguous) = true ↔
      ∃ other decision, other ≠ best.index ∧
        resolver.WinsTieAt candidates arguments decision best.index other ∧
          decision.rule.isAmbiguous = true := by
  simp only [List.any_map, List.any_eq_true, Function.comp_apply, compare_ambiguous]
  constructor
  · rintro ⟨rival, member, tied, decision, decided, warned⟩
    obtain ⟨present, different⟩ := mem_rivals.mp member
    have better := wins.2 rival.index different (applicableAt_of_found present)
    have beaten :=
      (resolver.beats_iff arguments best rival).mp ((beatsAt_iff found present).mp better)
    have won : decision.winner = .left := by simpa [tied, decided] using beaten
    exact ⟨rival.index, decision, different,
      ⟨best, rival, found, present, tied, decided, won⟩, warned⟩
  · rintro ⟨other, decision, different, ⟨left, right, atLeft, atRight, tied, decided, _⟩, warned⟩
    obtain rfl := Option.some.inj (found.symm.trans atLeft)
    obtain ⟨rfl, _⟩ := candidateAt?_eq_some_iff.mp atRight
    exact ⟨right, mem_rivals.mpr ⟨atRight, different⟩, tied, decision, decided, warned⟩

theorem mem_unbeaten {candidate : ApplicableCandidate} :
    candidate ∈ resolver.unbeaten arguments (resolver.applicable candidates arguments) ↔
      resolver.candidateAt? candidates arguments candidate.index = some candidate ∧
        resolver.UnbeatenAt candidates arguments candidate.index := by
  simp only [unbeaten, List.mem_filter, mem_applicable, Bool.not_eq_eq_eq_not, Bool.not_true,
    List.any_eq_false]
  constructor
  · rintro ⟨found, beatenByNone⟩
    refine ⟨found, applicableAt_of_found found, ?_⟩
    intro other different takes
    obtain ⟨rival, rfl, present⟩ := takes.exists_candidate
    rw [beatsAt_iff present found]
    exact beatenByNone rival (mem_rivals.mpr ⟨present, different⟩)
  · rintro ⟨found, _, beatenByNone⟩
    refine ⟨found, ?_⟩
    intro rival member
    obtain ⟨present, different⟩ := mem_rivals.mp member
    rw [← beatsAt_iff present found]
    exact beatenByNone rival.index different (applicableAt_of_found present)

theorem unbeatenAt_iff_mem {place : Nat} :
    resolver.UnbeatenAt candidates arguments place ↔
      ∃ candidate ∈ resolver.unbeaten arguments (resolver.applicable candidates arguments),
        candidate.index = place := by
  constructor
  · intro unbeaten
    obtain ⟨candidate, rfl, found⟩ := unbeaten.1.exists_candidate
    exact ⟨candidate, mem_unbeaten.mpr ⟨found, unbeaten⟩, rfl⟩
  · rintro ⟨candidate, member, rfl⟩
    exact (mem_unbeaten.mp member).2

theorem applicable_lowestTwo {first second : ApplicableCandidate} {rest : List ApplicableCandidate}
    (listed : resolver.applicable candidates arguments = first :: second :: rest) :
    LowestTwo (resolver.ApplicableAt candidates arguments) first.index second.index :=
  .of_increasing (applicable_increasing resolver candidates arguments) (fun _ =>
    applicableAt_iff_mem) listed

theorem unbeaten_lowestTwo {first second : ApplicableCandidate} {rest : List ApplicableCandidate}
    (listed : resolver.unbeaten arguments (resolver.applicable candidates arguments) =
      first :: second :: rest) :
    LowestTwo (resolver.UnbeatenAt candidates arguments) first.index second.index :=
  .of_increasing ((applicable_increasing resolver candidates arguments).filter _) (fun _ =>
    unbeatenAt_iff_mem) listed

theorem severalUnbeaten_iff :
    resolver.SeveralUnbeaten candidates arguments ↔ ∃ first second rest,
      resolver.unbeaten arguments (resolver.applicable candidates arguments) =
        first :: second :: rest := by
  constructor
  · rintro ⟨place, other, different, unbeaten, alsoUnbeaten⟩
    obtain ⟨candidate, member, rfl⟩ := unbeatenAt_iff_mem.mp unbeaten
    obtain ⟨rival, rivalMember, rfl⟩ := unbeatenAt_iff_mem.mp alsoUnbeaten
    match listed : resolver.unbeaten arguments (resolver.applicable candidates arguments) with
    | [] => simp [listed] at member
    | [only] =>
      simp only [listed, List.mem_singleton] at member rivalMember
      exact False.elim (different (by rw [member, rivalMember]))
    | first :: second :: rest => exact ⟨first, second, rest, rfl⟩
  · rintro ⟨first, second, rest, listed⟩
    have two := unbeaten_lowestTwo listed
    exact ⟨first.index, second.index, Nat.ne_of_lt two.increasing, two.first_holds,
      two.second_holds⟩

theorem bestAt_of_only {only : ApplicableCandidate}
    (listed : resolver.applicable candidates arguments = [only]) :
    resolver.BestAt candidates arguments only.index := by
  have found :=
    mem_applicable.mp (show only ∈ resolver.applicable candidates arguments by simp [listed])
  apply (beatsRivals_iff found).mp
  simp [listed, rivals]

/-- The search over several candidates ends in an answer that the comparison of places allows. -/
theorem pickBest_resolves (takers : resolver.applicable candidates arguments ≠ []) :
    resolver.Resolves candidates arguments
      (resolver.pickBest arguments (resolver.applicable candidates arguments)) := by
  unfold pickBest
  cases search : (resolver.applicable candidates arguments).find? fun candidate =>
      (rivals (resolver.applicable candidates arguments) candidate).all
        (resolver.beats arguments candidate) with
  | some best =>
    have found := mem_applicable.mp (List.mem_of_find?_eq_some search)
    have passed := List.find?_some search
    have wins := (beatsRivals_iff found).mp passed
    exact .success wins (byTieBreak_iff found wins) (flagged_iff found wins)
  | none =>
    have undecided : ∀ place, ¬resolver.BestAt candidates arguments place := by
      intro place best
      obtain ⟨candidate, rfl, found⟩ := best.1.exists_candidate
      exact List.find?_eq_none.mp search candidate (mem_applicable.mpr found)
        ((beatsRivals_iff found).mpr best)
    simp only
    split
    · rename_i first second rest listed
      have several := severalUnbeaten_iff.mpr ⟨first, second, rest, listed⟩
      exact .ambiguous undecided (fun _ => unbeaten_lowestTwo listed) (fun few =>
        False.elim (few several))
    · rename_i first second rest listed few
      refine .ambiguous undecided (fun several => ?_) (fun _ => applicable_lowestTwo listed)
      obtain ⟨one, other, others, both⟩ := severalUnbeaten_iff.mp several
      exact False.elim (few one other others both)
    · -- With fewer than two candidates the search above has found the only one.
      rename_i _ short
      match listed : resolver.applicable candidates arguments with
      | [] => exact False.elim (takers listed)
      | [only] => exact False.elim (undecided only.index (bestAt_of_only listed))
      | first :: second :: rest => exact False.elim (short first second rest listed)

theorem resolve_eq_iff {answer : Resolution} :
    resolver.resolve candidates arguments = answer ↔
      resolver.Resolves candidates arguments answer := by
  have given : resolver.Resolves candidates arguments (resolver.resolve candidates arguments) := by
    unfold resolve
    split
    · rename_i listed
      refine .noApplicable fun place takes => ?_
      obtain ⟨candidate, member, _⟩ := applicableAt_iff_mem.mp takes
      simp [listed] at member
    · rename_i takers
      exact pickBest_resolves takers
  constructor
  · rintro rfl
    exact given
  · exact given.unique

theorem resolve_noApplicable_iff :
    resolver.resolve candidates arguments = .noApplicable ↔
      ∀ place, ¬resolver.ApplicableAt candidates arguments place := by
  rw [resolve_eq_iff]
  constructor
  · rintro ⟨absent⟩
    exact absent
  · exact .noApplicable

theorem resolve_success_iff {place : Nat} {byTieBreak ambiguous : Bool} :
    resolver.resolve candidates arguments = .success place byTieBreak ambiguous ↔
      resolver.BestAt candidates arguments place ∧
      (byTieBreak = true ↔
        ∃ other, other ≠ place ∧ resolver.ApplicableAt candidates arguments other ∧
        ¬resolver.DominatesAt candidates arguments place other) ∧
      (ambiguous = true ↔ ∃ other decision, other ≠ place ∧
        resolver.WinsTieAt candidates arguments decision place other ∧
          decision.rule.isAmbiguous = true) := by
  rw [resolve_eq_iff]
  constructor
  · intro answer
    cases answer with
    | success best tied flagged => exact ⟨best, tied, flagged⟩
  · rintro ⟨best, tied, flagged⟩
    exact .success best tied flagged

theorem resolve_ambiguous_iff :
    (∃ first second, resolver.resolve candidates arguments = .ambiguous first second) ↔
      (∃ place, resolver.ApplicableAt candidates arguments place) ∧
        ∀ place, ¬resolver.BestAt candidates arguments place := by
  constructor
  · rintro ⟨first, second, answered⟩
    cases resolve_eq_iff.mp answered with
    | ambiguous undecided unbeaten otherwise =>
      exact ⟨⟨first, (lowestTwo_applicable unbeaten otherwise).2.1⟩, undecided⟩
  · rintro ⟨⟨place, takes⟩, undecided⟩
    cases answered : resolver.resolve candidates arguments with
    | noApplicable => exact False.elim (resolve_noApplicable_iff.mp answered place takes)
    | success index byTieBreak ambiguous =>
      exact False.elim (undecided index (resolve_success_iff.mp answered).1)
    | ambiguous first second => exact ⟨first, second, rfl⟩

variable (resolver candidates arguments)

/-- Nothing is applicable, or one candidate beats all others, or two candidates stand for the
ambiguity: the lowest two that nothing beats, or the lowest two at all if fewer are unbeaten. -/
theorem resolve_characterised :
    (resolver.resolve candidates arguments = .noApplicable ↔
      ∀ place, ¬resolver.ApplicableAt candidates arguments place) ∧
    (∀ place byTieBreak ambiguous,
      resolver.resolve candidates arguments = .success place byTieBreak ambiguous ↔
        resolver.BestAt candidates arguments place ∧
        (byTieBreak = true ↔
          ∃ other, other ≠ place ∧ resolver.ApplicableAt candidates arguments other ∧
          ¬resolver.DominatesAt candidates arguments place other) ∧
        (ambiguous = true ↔ ∃ other decision, other ≠ place ∧
          resolver.WinsTieAt candidates arguments decision place other ∧
            decision.rule.isAmbiguous = true)) ∧
    ((∃ first second, resolver.resolve candidates arguments = .ambiguous first second) ↔
      (∃ place, resolver.ApplicableAt candidates arguments place) ∧
        ∀ place, ¬resolver.BestAt candidates arguments place) ∧
    ∀ first second,
      resolver.resolve candidates arguments = .ambiguous first second ↔
        (∀ place, ¬resolver.BestAt candidates arguments place) ∧
        first < second ∧ resolver.ApplicableAt candidates arguments first ∧
        resolver.ApplicableAt candidates arguments second ∧
        (resolver.SeveralUnbeaten candidates arguments →
          LowestTwo (resolver.UnbeatenAt candidates arguments) first second) ∧
        (¬resolver.SeveralUnbeaten candidates arguments →
          LowestTwo (resolver.ApplicableAt candidates arguments) first second) := by
  refine ⟨resolve_noApplicable_iff, fun _ _ _ => resolve_success_iff, resolve_ambiguous_iff, ?_⟩
  intro first second
  rw [resolve_eq_iff]
  constructor
  · intro answer
    cases answer with
    | ambiguous undecided unbeaten otherwise =>
      obtain ⟨increasing, takes, alsoTakes⟩ := lowestTwo_applicable unbeaten otherwise
      exact ⟨undecided, increasing, takes, alsoTakes, unbeaten, otherwise⟩
  · rintro ⟨undecided, _, _, _, unbeaten, otherwise⟩
    exact .ambiguous undecided unbeaten otherwise

end Places

end OverloadResolver

end DialectBinder
