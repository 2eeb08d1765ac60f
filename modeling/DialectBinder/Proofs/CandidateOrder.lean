import DialectBinder.Proofs.Resolution
import Mathlib.Data.Fin.Basic
import Mathlib.Logic.Equiv.Basic

/-! The order in which candidates are listed does not matter to overload resolution: whichever way
the list is reordered, the same entry wins in the same way, or none does for the same reason. -/

namespace DialectBinder

namespace OverloadResolver

section Moved

variable {resolver : OverloadResolver} {arguments : List Argument} {candidates moved : List Member}
  {former : Equiv.Perm Nat} (entries : ∀ place, moved[place]? = candidates[former place]?)

include entries

theorem candidateAt?_moved (place : Nat) :
    resolver.candidateAt? moved arguments place =
      (resolver.candidateAt? candidates arguments (former place)).map fun candidate =>
        { candidate with index := place } := by
  simp only [candidateAt?, entries]
  cases candidates[former place]? with
  | none => rfl
  | some member =>
    cases bound : resolver.classifier.bindArguments? member arguments <;> simp [bound]

theorem applicableAt_moved (place : Nat) :
    resolver.ApplicableAt moved arguments place ↔
      resolver.ApplicableAt candidates arguments (former place) := by
  simp only [ApplicableAt, entries]

theorem dominatesAt_moved (place other : Nat) :
    resolver.DominatesAt moved arguments place other ↔
      resolver.DominatesAt candidates arguments (former place) (former other) := by
  simp only [DominatesAt, candidateAt?_moved entries]
  cases resolver.candidateAt? candidates arguments (former place) <;>
    cases resolver.candidateAt? candidates arguments (former other) <;> simp

theorem winsTieAt_moved (decision : TieDecision) (place other : Nat) :
    resolver.WinsTieAt moved arguments decision place other ↔
      resolver.WinsTieAt candidates arguments decision (former place) (former other) := by
  simp only [WinsTieAt, candidateAt?_moved entries]
  cases resolver.candidateAt? candidates arguments (former place) <;>
    cases resolver.candidateAt? candidates arguments (former other) <;> simp

theorem bestAt_moved (place : Nat) :
    resolver.BestAt moved arguments place ↔
      resolver.BestAt candidates arguments (former place) := by
  apply and_congr (applicableAt_moved entries place)
  apply former.forall_congr
  intro other
  simp only [ne_eq, former.injective.eq_iff, applicableAt_moved entries, BeatsAt,
    dominatesAt_moved entries, winsTieAt_moved entries]

/-- A success moves with the entry that wins and keeps its flags. -/
theorem resolve_success_moved (place : Nat) (byTieBreak ambiguous : Bool) :
    resolver.resolve moved arguments = .success place byTieBreak ambiguous ↔
      resolver.resolve candidates arguments = .success (former place) byTieBreak ambiguous := by
  have tied : (∃ other, other ≠ place ∧ resolver.ApplicableAt moved arguments other ∧
        ¬resolver.DominatesAt moved arguments place other) ↔
      ∃ other, other ≠ former place ∧ resolver.ApplicableAt candidates arguments other ∧
        ¬resolver.DominatesAt candidates arguments (former place) other := by
    apply former.exists_congr
    intro other
    simp only [ne_eq, former.injective.eq_iff, applicableAt_moved entries,
      dominatesAt_moved entries]
  have flagged :
      (∃ other decision, other ≠ place ∧ resolver.WinsTieAt moved arguments decision place other ∧
        decision.rule.isAmbiguous = true) ↔
      ∃ other decision, other ≠ former place ∧
        resolver.WinsTieAt candidates arguments decision (former place) other ∧
        decision.rule.isAmbiguous = true := by
    apply former.exists_congr
    intro other
    simp only [ne_eq, former.injective.eq_iff, winsTieAt_moved entries]
  rw [resolve_success_iff, resolve_success_iff, bestAt_moved entries, tied, flagged]

theorem resolve_noApplicable_moved :
    resolver.resolve moved arguments = .noApplicable ↔
      resolver.resolve candidates arguments = .noApplicable := by
  rw [resolve_noApplicable_iff, resolve_noApplicable_iff]
  apply former.forall_congr
  intro place
  rw [applicableAt_moved entries]

theorem resolve_ambiguous_moved :
    (∃ first second, resolver.resolve moved arguments = .ambiguous first second) ↔
      ∃ first second, resolver.resolve candidates arguments = .ambiguous first second := by
  rw [resolve_ambiguous_iff, resolve_ambiguous_iff]
  apply and_congr
  · exact former.exists_congr (applicableAt_moved entries)
  · exact former.forall_congr fun place => not_congr (bestAt_moved entries place)

end Moved

/-- The candidates in another order: a place holds what `order` finds at it in the old list. -/
def reorder (candidates : List Member) (order : Equiv.Perm (Fin candidates.length)) : List Member :=
  List.ofFn fun place => candidates.get (order place)

/-- The former place of every entry; places beyond the list stay where they are. -/
def formerPlace {length : Nat} (order : Equiv.Perm (Fin length)) : Equiv.Perm Nat :=
  order.extendDomain Fin.equivSubtype

theorem formerPlace_inside {length place : Nat} (order : Equiv.Perm (Fin length))
    (inside : place < length) :
    formerPlace order place = order ⟨place, inside⟩ := by
  rw [formerPlace, order.extendDomain_apply_subtype Fin.equivSubtype inside]
  rfl

theorem getElem?_reorder (candidates : List Member)
    (order : Equiv.Perm (Fin candidates.length)) (place : Nat) :
    (reorder candidates order)[place]? = candidates[formerPlace order place]? := by
  unfold reorder
  rw [List.getElem?_ofFn]
  split
  · rename_i inside
    simp [formerPlace_inside order inside]
  · rename_i outside
    have stays : formerPlace order place = place := order.extendDomain_apply_not_subtype _ outside
    rw [stays, List.getElem?_eq_none (Nat.le_of_not_lt outside)]

/-- Reordering the candidates changes neither whether there is a best one, or none at all that takes
the arguments, nor which entry is the best, nor what is said about its victory. -/
theorem resolve_reorder (resolver : OverloadResolver) (candidates : List Member)
    (arguments : List Argument) (order : Equiv.Perm (Fin candidates.length)) :
    (resolver.resolve (reorder candidates order) arguments = .noApplicable ↔
      resolver.resolve candidates arguments = .noApplicable) ∧
    ((∃ first second,
      resolver.resolve (reorder candidates order) arguments = .ambiguous first second) ↔
      ∃ first second, resolver.resolve candidates arguments = .ambiguous first second) ∧
    ((∃ place byTieBreak ambiguous,
        resolver.resolve (reorder candidates order) arguments =
          .success place byTieBreak ambiguous) ↔
      ∃ place byTieBreak ambiguous,
        resolver.resolve candidates arguments = .success place byTieBreak ambiguous) ∧
    ∀ place byTieBreak ambiguous,
      resolver.resolve (reorder candidates order) arguments = .success place byTieBreak ambiguous ↔
        ∃ inside : place < candidates.length,
          resolver.resolve candidates arguments =
            .success (order ⟨place, inside⟩) byTieBreak ambiguous := by
  have entries := getElem?_reorder candidates order
  refine ⟨resolve_noApplicable_moved entries, resolve_ambiguous_moved entries, ?_, ?_⟩
  · apply (formerPlace order).exists_congr
    intro place
    simp only [resolve_success_moved entries]
  · intro place byTieBreak ambiguous
    rw [resolve_success_moved entries]
    constructor
    · intro success
      obtain ⟨member, found, _⟩ := (resolve_success_iff.mp success).1.1
      by_cases inside : place < candidates.length
      · exact ⟨inside, formerPlace_inside order inside ▸ success⟩
      · rw [← entries, List.getElem?_eq_none (by simpa [reorder] using inside)] at found
        cases found
    · rintro ⟨inside, success⟩
      rw [formerPlace_inside order inside]
      exact success

end OverloadResolver

end DialectBinder
