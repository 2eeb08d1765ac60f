import DialectBinder.Call.Overload
import DialectBinder.Proofs.TieBreakSymmetry
import Mathlib.Data.List.Zip

/-! What it means for one candidate to be better than another, said of places in the candidate
list. No two candidates beat each other, so at most one place holds the best candidate. -/

namespace DialectBinder

open Side (Mirrors)

theorem dominance_mirrors (left right : List ArgumentBinding) :
    Mirrors (dominance left right) (dominance right left) := by
  have exchanged : right.zip left = (left.zip right).map Prod.swap :=
    (List.zip_swap left right).symm
  simp only [dominance, exchanged, List.map_map, List.any_map, Function.comp_def,
    Prod.fst_swap, Prod.snd_swap]
  exact Mirrors.preference _ _

namespace OverloadResolver

variable (resolver : OverloadResolver)

/-- Neither the conversions nor the tie-breaking rules care which candidate is named first. -/
theorem compare_mirrors (arguments : List Argument) (left right : ApplicableCandidate) :
    Mirrors (resolver.compare arguments left right).winner
      (resolver.compare arguments right left).winner := by
  have ranks : dominance right.bindings left.bindings = _ :=
    dominance_mirrors left.bindings right.bindings
  have ties := resolver.breaker.pickBetter?_swap left.member right.member arguments
  unfold compare
  cases better : dominance left.bindings right.bindings with
  | some side => simp [Mirrors, ranks, better]
  | none =>
    cases decided : resolver.breaker.pickBetter? left.member right.member arguments with
    | none => simp [Mirrors, ranks, better, ties, decided]
    | some decision => simp [Mirrors, ranks, better, ties, decided, TieDecision.swap]

theorem beats_asymm {arguments : List Argument} {left right : ApplicableCandidate}
    (forward : resolver.beats arguments left right = true) :
    ¬resolver.beats arguments right left = true := by
  have mirrored : (resolver.compare arguments right left).winner = _ :=
    resolver.compare_mirrors arguments left right
  have won : (resolver.compare arguments left right).winner = some .left := by
    simpa [beats] using forward
  simp [beats, mirrored, won, Side.swap]

/-- A candidate beats another by its conversions, or where these do not tell by a tie-breaking
rule. -/
theorem beats_iff (arguments : List Argument) (left right : ApplicableCandidate) :
    resolver.beats arguments left right = true ↔
      dominance left.bindings right.bindings = some .left ∨
      dominance left.bindings right.bindings = none ∧
        ∃ decision,
          resolver.breaker.pickBetter? left.member right.member arguments = some decision ∧
          decision.winner = .left := by
  unfold beats compare
  cases dominance left.bindings right.bindings with
  | some side => simp
  | none => cases resolver.breaker.pickBetter? left.member right.member arguments <;> simp

/-- Rules are asked exactly where the conversions do not tell. -/
theorem compare_byTieBreak (arguments : List Argument) (left right : ApplicableCandidate) :
    (resolver.compare arguments left right).byTieBreak = true ↔
      dominance left.bindings right.bindings = none := by
  unfold compare
  cases dominance left.bindings right.bindings with
  | some side => simp
  | none => cases resolver.breaker.pickBetter? left.member right.member arguments <;> simp

theorem compare_ambiguous (arguments : List Argument) (left right : ApplicableCandidate) :
    (resolver.compare arguments left right).ambiguous = true ↔
      dominance left.bindings right.bindings = none ∧
        ∃ decision,
          resolver.breaker.pickBetter? left.member right.member arguments = some decision ∧
          decision.rule.isAmbiguous = true := by
  unfold compare
  cases dominance left.bindings right.bindings with
  | some side => simp
  | none => cases resolver.breaker.pickBetter? left.member right.member arguments <;> simp

section Places

variable (candidates : List Member) (arguments : List Argument)

/-- The candidate at a place of the list with the bindings of the arguments, if it takes them. -/
def candidateAt? (place : Nat) : Option ApplicableCandidate := do
  let member ← candidates[place]?
  let bindings ← resolver.classifier.bindArguments? member arguments
  return ⟨place, member, bindings⟩

def ApplicableAt (place : Nat) : Prop :=
  ∃ member, candidates[place]? = some member ∧
    resolver.classifier.isApplicable member arguments = true

/-- The candidate at one place converts no argument worse than the one at another, and some argument
better. -/
def DominatesAt (place other : Nat) : Prop :=
  ∃ left right, resolver.candidateAt? candidates arguments place = some left ∧
    resolver.candidateAt? candidates arguments other = some right ∧
    dominance left.bindings right.bindings = some .left

/-- Where the conversions do not tell, the candidate at one place wins by this decision. -/
def WinsTieAt (decision : TieDecision) (place other : Nat) : Prop :=
  ∃ left right, resolver.candidateAt? candidates arguments place = some left ∧
    resolver.candidateAt? candidates arguments other = some right ∧
    dominance left.bindings right.bindings = none ∧
    resolver.breaker.pickBetter? left.member right.member arguments = some decision ∧
      decision.winner = .left

def BeatsAt (place other : Nat) : Prop :=
  resolver.DominatesAt candidates arguments place other ∨
    ∃ decision, resolver.WinsTieAt candidates arguments decision place other

/-- The candidate at this place takes the arguments and beats all others that do. -/
def BestAt (place : Nat) : Prop :=
  resolver.ApplicableAt candidates arguments place ∧
    ∀ other, other ≠ place → resolver.ApplicableAt candidates arguments other →
      resolver.BeatsAt candidates arguments place other

/-- The candidate at this place takes the arguments and no other that does beats it. -/
def UnbeatenAt (place : Nat) : Prop :=
  resolver.ApplicableAt candidates arguments place ∧
    ∀ other, other ≠ place → resolver.ApplicableAt candidates arguments other →
      ¬resolver.BeatsAt candidates arguments other place

variable {resolver candidates arguments}

theorem candidateAt?_eq_some_iff {place : Nat} {candidate : ApplicableCandidate} :
    resolver.candidateAt? candidates arguments place = some candidate ↔
      candidate.index = place ∧ candidates[place]? = some candidate.member ∧
        resolver.classifier.bindArguments? candidate.member arguments =
          some candidate.bindings := by
  obtain ⟨index, member, bindings⟩ := candidate
  simp only [candidateAt?, Option.bind_eq_bind, Option.bind_eq_some_iff, Option.pure_def,
    Option.some.injEq, ApplicableCandidate.mk.injEq]
  constructor
  · rintro ⟨_, found, _, bound, rfl, rfl, rfl⟩
    exact ⟨rfl, found, bound⟩
  · rintro ⟨rfl, found, bound⟩
    exact ⟨member, found, bindings, bound, rfl, rfl, rfl⟩

theorem applicableAt_of_found {place : Nat} {candidate : ApplicableCandidate}
    (found : resolver.candidateAt? candidates arguments place = some candidate) :
    resolver.ApplicableAt candidates arguments place := by
  obtain ⟨_, present, bound⟩ := candidateAt?_eq_some_iff.mp found
  exact ⟨candidate.member, present, by simp [Classifier.isApplicable, bound]⟩

theorem ApplicableAt.exists_candidate {place : Nat}
    (takes : resolver.ApplicableAt candidates arguments place) :
    ∃ candidate, candidate.index = place ∧
      resolver.candidateAt? candidates arguments candidate.index = some candidate := by
  obtain ⟨member, found, taken⟩ := takes
  obtain ⟨bindings, bound⟩ := Option.isSome_iff_exists.mp taken
  exact ⟨⟨place, member, bindings⟩, rfl, candidateAt?_eq_some_iff.mpr ⟨rfl, found, bound⟩⟩

theorem mem_applicable {candidate : ApplicableCandidate} :
    candidate ∈ resolver.applicable candidates arguments ↔
      resolver.candidateAt? candidates arguments candidate.index = some candidate := by
  rw [candidateAt?_eq_some_iff]
  obtain ⟨index, member, bindings⟩ := candidate
  simp only [applicable, List.mem_filterMap, Prod.exists, List.mk_mem_zipIdx_iff_getElem?,
    Option.map_eq_some_iff, ApplicableCandidate.mk.injEq, true_and]
  constructor
  · rintro ⟨_, _, found, _, bound, rfl, rfl, rfl⟩
    exact ⟨found, bound⟩
  · rintro ⟨found, bound⟩
    exact ⟨member, index, found, bindings, bound, rfl, rfl, rfl⟩

theorem applicable_increasing (resolver : OverloadResolver) (candidates : List Member)
    (arguments : List Argument) :
    (resolver.applicable candidates arguments).Pairwise fun earlier later =>
    earlier.index < later.index := by
  have places : candidates.zipIdx.Pairwise fun earlier later => earlier.2 < later.2 := by
    apply List.pairwise_map.mp
    rw [List.zipIdx_map_snd]
    exact List.pairwise_lt_range'
  apply places.filterMap
  rintro ⟨member, index⟩ ⟨other, next⟩ before candidate found rival also
  obtain ⟨_, _, rfl⟩ := Option.map_eq_some_iff.mp found
  obtain ⟨_, _, rfl⟩ := Option.map_eq_some_iff.mp also
  exact before

theorem beatsAt_iff {place other : Nat} {left right : ApplicableCandidate}
    (found : resolver.candidateAt? candidates arguments place = some left)
    (rival : resolver.candidateAt? candidates arguments other = some right) :
    resolver.BeatsAt candidates arguments place other ↔
      resolver.beats arguments left right = true := by
  simp [BeatsAt, DominatesAt, WinsTieAt, found, rival, beats_iff]

theorem BeatsAt.applicable {place other : Nat}
    (better : resolver.BeatsAt candidates arguments place other) :
    resolver.ApplicableAt candidates arguments place ∧
      resolver.ApplicableAt candidates arguments other := by
  obtain ⟨left, right, found, rival, _⟩ | ⟨_, left, right, found, rival, _⟩ := better
  · exact ⟨applicableAt_of_found found, applicableAt_of_found rival⟩
  · exact ⟨applicableAt_of_found found, applicableAt_of_found rival⟩

theorem BeatsAt.asymm {place other : Nat}
    (better : resolver.BeatsAt candidates arguments place other) :
    ¬resolver.BeatsAt candidates arguments other place := by
  obtain ⟨takes, rivalTakes⟩ := better.applicable
  obtain ⟨left, rfl, found⟩ := takes.exists_candidate
  obtain ⟨right, rfl, rival⟩ := rivalTakes.exists_candidate
  rw [beatsAt_iff rival found]
  exact resolver.beats_asymm ((beatsAt_iff found rival).mp better)

/-- Two best candidates would beat each other. -/
theorem BestAt.unique {place other : Nat} (best : resolver.BestAt candidates arguments place)
    (alsoBest : resolver.BestAt candidates arguments other) : place = other := by
  by_cases same : place = other
  · exact same
  · have forward := best.2 other (Ne.symm same) alsoBest.1
    have backward := alsoBest.2 place same best.1
    exact False.elim (forward.asymm backward)

end Places

end OverloadResolver

end DialectBinder
