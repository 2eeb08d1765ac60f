import DialectBinder.Proofs.ArgumentCommit
import DialectBinder.Proofs.Resolution
import Mathlib.Data.List.Forall2

/-! Members of a legacy runtime. Where they come from is asked before anything else that breaks a
tie, so they lose every tie against members of other assemblies, and a call goes to them only where
their conversions are better. -/

namespace DialectBinder

namespace AssemblyTable

/-- A legacy runtime among the assemblies. An unknown assembly is none. -/
def IsLegacy (table : AssemblyTable) (id : AssemblyId) : Prop :=
  ∃ assembly, table.get? id = some assembly ∧ assembly.legacyRuntime = true

theorem isLegacyRuntime_iff {table : AssemblyTable} {id : AssemblyId} :
    table.isLegacyRuntime id = true ↔ table.IsLegacy id :=
  Option.any_eq_true _ _

end AssemblyTable

/-- The tie-breaking rules never get beyond the origin of a member of a legacy runtime and one of
another assembly. -/
theorem TieBreaker.pickBetter?_of_legacy {breaker : TieBreaker} {modern legacy : Member}
    (current : ¬breaker.assemblies.IsLegacy modern.assembly)
    (old : breaker.assemblies.IsLegacy legacy.assembly) (arguments : List Argument) :
    breaker.pickBetter? modern legacy arguments = some ⟨.left, .origin⟩ := by
  have asked : breaker.assemblies.isLegacyRuntime modern.assembly = false := by
    rw [← Bool.not_eq_true, AssemblyTable.isLegacyRuntime_iff]
    exact current
  have first : breaker.origin modern legacy = some .left := by
    simp [origin, asked, AssemblyTable.isLegacyRuntime_iff.mpr old, Side.prefer]
  simp [pickBetter?, TieRule.all, applyRule?, first]

/-- The ranks of the conversions, argument by argument. -/
def conversionRanks (bindings : List ArgumentBinding) : List Nat := bindings.map (·.conversion.rank)

/-- No argument is converted worse, and some argument better. -/
structure ConvertsBetter (better worse : List ArgumentBinding) : Prop where
  no_worse : List.Forall₂ (· ≤ ·) (conversionRanks better) (conversionRanks worse)
  some_better : ∃ ranks ∈ (conversionRanks better).zip (conversionRanks worse), ranks.1 < ranks.2

theorem Side.prefer_eq_left_iff {onLeft onRight : Bool} :
    prefer onLeft onRight = some .left ↔ onLeft = true ∧ onRight = false := by
  cases onLeft <;> cases onRight <;> decide

section Ranks

variable {left right : List ArgumentBinding}

theorem dominance_eq_prefer :
    dominance left right =
      Side.prefer (((conversionRanks left).zip (conversionRanks right)).any fun ranks =>
        ranks.1 < ranks.2)
        (((conversionRanks left).zip (conversionRanks right)).any fun ranks =>
          ranks.2 < ranks.1) := by
  rw [conversionRanks, conversionRanks, List.zip_map]
  rfl

theorem dominance_eq_left_iff (same : left.length = right.length) :
    dominance left right = some .left ↔ ConvertsBetter left right := by
  have ranked : (conversionRanks left).length = (conversionRanks right).length := by
    simpa [conversionRanks] using same
  rw [dominance_eq_prefer, Side.prefer_eq_left_iff, List.any_eq_true, List.any_eq_false]
  constructor
  · rintro ⟨⟨ranks, member, less⟩, noneWorse⟩
    refine ⟨List.forall₂_iff_zip.mpr ⟨ranked, fun {rank other} pair => ?_⟩, ranks,
      member, by simpa using less⟩
    simpa using noneWorse (rank, other) pair
  · rintro ⟨noWorse, ranks, member, less⟩
    refine ⟨⟨ranks, member, by simpa using less⟩, fun pair listed => ?_⟩
    simpa using (List.forall₂_iff_zip.mp noWorse).2 listed

theorem dominance_of_same_ranks (same : conversionRanks left = conversionRanks right) :
    dominance left right = none := by
  have level : List.Forall₂ (· = ·) (conversionRanks left) (conversionRanks right) := by
    rw [List.forall₂_eq_eq_eq]
    exact same
  have equal : ∀ ranks ∈ (conversionRanks left).zip (conversionRanks right), ranks.1 = ranks.2 :=
    fun _ member => (List.forall₂_iff_zip.mp level).2 member
  have noneBelow : ((conversionRanks left).zip (conversionRanks right)).any (fun ranks =>
      ranks.1 < ranks.2) = false :=
    List.any_eq_false.mpr fun ranks member => by simp [equal ranks member]
  have noneAbove : ((conversionRanks left).zip (conversionRanks right)).any (fun ranks =>
      ranks.2 < ranks.1) = false :=
    List.any_eq_false.mpr fun ranks member => by simp [equal ranks member]
  rw [dominance_eq_prefer, noneBelow, noneAbove]
  rfl

end Ranks

namespace OverloadResolver

section Places

variable (resolver : OverloadResolver) (candidates : List Member) (arguments : List Argument)

def LegacyAt (place : Nat) : Prop :=
  ∃ member, candidates[place]? = some member ∧ resolver.breaker.assemblies.IsLegacy member.assembly

/-- The candidates at both places take the arguments, and the one at the first place converts them
better. -/
def ConvertsBetterAt (place other : Nat) : Prop :=
  ∃ left right, resolver.candidateAt? candidates arguments place = some left ∧
    resolver.candidateAt? candidates arguments other = some right ∧
      ConvertsBetter left.bindings right.bindings

/-- The candidates at both places take the arguments, with conversions of the same ranks. -/
def SameRanksAt (place other : Nat) : Prop :=
  ∃ left right, resolver.candidateAt? candidates arguments place = some left ∧
    resolver.candidateAt? candidates arguments other = some right ∧
    conversionRanks left.bindings = conversionRanks right.bindings

variable {resolver candidates arguments} {place other : Nat}

theorem legacyAt_iff {candidate : ApplicableCandidate}
    (found : resolver.candidateAt? candidates arguments place = some candidate) :
    resolver.LegacyAt candidates place ↔
      resolver.breaker.assemblies.IsLegacy candidate.member.assembly := by
  obtain ⟨_, present, _⟩ := candidateAt?_eq_some_iff.mp found
  simp [LegacyAt, present]

theorem LegacyAt.ne (legacy : resolver.LegacyAt candidates place)
    (modern : ¬resolver.LegacyAt candidates other) :
    other ≠ place :=
  fun same => modern (same ▸ legacy)

theorem length_bindings {candidate : ApplicableCandidate}
    (found : resolver.candidateAt? candidates arguments place = some candidate) :
    candidate.bindings.length = arguments.length := by
  obtain ⟨_, _, bound⟩ := candidateAt?_eq_some_iff.mp found
  obtain ⟨parameters, chosen, _, listed⟩ := Classifier.bindArguments?_eq_some_iff.mp bound
  rw [listed, List.length_map, List.length_zip,
    Classifier.length_of_chosenForm? chosen, Nat.min_self]

theorem dominatesAt_iff :
    resolver.DominatesAt candidates arguments place other ↔
      resolver.ConvertsBetterAt candidates arguments place other := by
  constructor
  · rintro ⟨left, right, found, rival, dominates⟩
    have same := (length_bindings found).trans (length_bindings rival).symm
    exact ⟨left, right, found, rival, (dominance_eq_left_iff same).mp dominates⟩
  · rintro ⟨left, right, found, rival, better⟩
    have same := (length_bindings found).trans (length_bindings rival).symm
    exact ⟨left, right, found, rival, (dominance_eq_left_iff same).mpr better⟩

theorem not_winsTieAt_of_legacy {decision : TieDecision}
    (legacy : resolver.LegacyAt candidates place) (modern : ¬resolver.LegacyAt candidates other) :
    ¬resolver.WinsTieAt candidates arguments decision place other := by
  rintro ⟨left, right, found, rival, _, decided, won⟩
  have old := (legacyAt_iff found).mp legacy
  have current := mt (legacyAt_iff rival).mpr modern
  rw [resolver.breaker.pickBetter?_swap right.member left.member,
    TieBreaker.pickBetter?_of_legacy current old] at decided
  cases decided
  cases won

/-- A member of a legacy runtime beats one of another assembly by its conversions only. -/
theorem beatsAt_iff_of_legacy (legacy : resolver.LegacyAt candidates place)
    (modern : ¬resolver.LegacyAt candidates other) :
    resolver.BeatsAt candidates arguments place other ↔
      resolver.ConvertsBetterAt candidates arguments place other := by
  rw [← dominatesAt_iff]
  constructor
  · rintro (dominates | ⟨decision, wins⟩)
    · exact dominates
    · exact False.elim (not_winsTieAt_of_legacy legacy modern wins)
  · exact .inl

theorem winsTieAt_of_same_ranks (legacy : resolver.LegacyAt candidates place)
    (modern : ¬resolver.LegacyAt candidates other)
    (same : resolver.SameRanksAt candidates arguments place other) :
    resolver.WinsTieAt candidates arguments ⟨.left, .origin⟩ other place := by
  obtain ⟨left, right, found, rival, ranks⟩ := same
  have old := (legacyAt_iff found).mp legacy
  have current := mt (legacyAt_iff rival).mpr modern
  exact ⟨right, left, rival, found, dominance_of_same_ranks ranks.symm,
    TieBreaker.pickBetter?_of_legacy current old _,
    rfl⟩

/-- Where only two candidates of the same ranks take the arguments, the one of another assembly is
called, by the rule on origins and without a warning. -/
theorem resolve_of_same_ranks (legacy : resolver.LegacyAt candidates place)
    (modern : ¬resolver.LegacyAt candidates other)
    (same : resolver.SameRanksAt candidates arguments place other)
    (only : ∀ third, resolver.ApplicableAt candidates arguments third →
      third = place ∨ third = other) :
    resolver.resolve candidates arguments = .success other true false := by
  obtain ⟨winner, loser, found, rival, tied, decided, _⟩ :=
    winsTieAt_of_same_ranks legacy modern same
  have rivalOf {third : Nat} (apart : third ≠ other)
      (takes : resolver.ApplicableAt candidates arguments third) :
      third = place := (only third takes).resolve_right apart
  refine resolve_success_iff.mpr ⟨⟨applicableAt_of_found found, ?_⟩, ?_, ?_⟩
  · intro third apart takes
    rw [rivalOf apart takes]
    exact .inr ⟨_, winsTieAt_of_same_ranks legacy modern same⟩
  · refine iff_of_true rfl ⟨place, (legacy.ne modern).symm, applicableAt_of_found rival, ?_⟩
    simp [DominatesAt, found, rival, tied]
  · refine iff_of_false Bool.false_ne_true ?_
    rintro ⟨third, decision, apart, victory, warned⟩
    have known := rivalOf apart (BeatsAt.applicable (.inr ⟨decision, victory⟩)).2
    obtain ⟨left, right, atLeft, atRight, _, chosen, _⟩ := victory
    rw [known] at atRight
    rw [← Option.some.inj (found.symm.trans atLeft), ← Option.some.inj (rival.symm.trans atRight),
      decided] at chosen
    cases chosen
    cases warned

variable (resolver candidates arguments)

/-- Members of a legacy runtime lose every tie. If a call goes to one, it converts no argument worse
and some argument better than each candidate of another assembly that takes the arguments. And of
two candidates with conversions of the same ranks, one of a legacy runtime and one of another
assembly, the former is beaten and not called; the latter is called if there are no others. -/
theorem legacy_members_lose_ties :
    (∀ place byTieBreak ambiguous,
      resolver.resolve candidates arguments = .success place byTieBreak ambiguous →
      resolver.LegacyAt candidates place →
      ∀ other, resolver.ApplicableAt candidates arguments other →
        ¬resolver.LegacyAt candidates other →
        resolver.ConvertsBetterAt candidates arguments place other) ∧
    ∀ place other, resolver.LegacyAt candidates place → ¬resolver.LegacyAt candidates other →
      resolver.SameRanksAt candidates arguments place other →
      resolver.BeatsAt candidates arguments other place ∧
      (∀ byTieBreak ambiguous,
        resolver.resolve candidates arguments ≠ .success place byTieBreak ambiguous) ∧
      ((∀ third, resolver.ApplicableAt candidates arguments third → third = place ∨ third = other) →
        resolver.resolve candidates arguments = .success other true false) := by
  refine ⟨?_, ?_⟩
  · intro place byTieBreak ambiguous answered legacy other takes modern
    have best := (resolve_success_iff.mp answered).1
    exact (beatsAt_iff_of_legacy legacy modern).mp (best.2 other (legacy.ne modern) takes)
  · intro place other legacy modern same
    have beaten : resolver.BeatsAt candidates arguments other place :=
      .inr ⟨_, winsTieAt_of_same_ranks legacy modern same⟩
    refine ⟨beaten, ?_, resolve_of_same_ranks legacy modern same⟩
    intro byTieBreak ambiguous answered
    have best := (resolve_success_iff.mp answered).1
    exact beaten.asymm (best.2 other (legacy.ne modern) beaten.applicable.1)

end Places

/-- A program that references a legacy runtime, its assembly 1. -/
def onLegacyRuntime : OverloadResolver where
  classifier := { types := .ofPointerSize 8, exprs := ⟨#[]⟩, options := .forDialect .core }
  breaker :=
    { types := .ofPointerSize 8, exprs := ⟨#[]⟩, options := .forDialect .core,
      assemblies := (AssemblyTable.ofCurrent "App").addReference "VulcanRT" true }

/-- The procedures `Print` of the legacy runtime, of an unknown assembly and of the program, by the
types of their parameters. -/
def prints (legacy unknown own : List TypeId) : List Member :=
  [{ symbol := ⟨1⟩, name := "Print", container := "Console",
     parameters := legacy.map ({ type := · }), assembly := ⟨1⟩ },
   { symbol := ⟨2⟩, name := "Print", container := "Console",
     parameters := unknown.map ({ type := · }), assembly := ⟨7⟩ },
   { symbol := ⟨3⟩, name := "Print", container := "Console",
     parameters := own.map ({ type := · }) }]

def shorts (count : Nat) : List Argument := List.replicate count { type := .short }

/-- A procedure of the legacy runtime is called where it converts better than the others. It loses a
tie against one of an unknown assembly. -/
theorem legacy_print_called_if_better :
    onLegacyRuntime.resolve (prints [.short, .long] [.long, .long] [.short, .object]) (shorts 2) =
      .success 0 false false ∧
      onLegacyRuntime.ConvertsBetterAt (prints [.short, .long] [.long, .long] [.short, .object])
        (shorts 2) 0 1 ∧
      onLegacyRuntime.SameRanksAt (prints [.short] [.short] []) (shorts 1) 0 1 ∧
      onLegacyRuntime.resolve (prints [.short] [.short] []) (shorts 1) = .success 1 true false := by
  have legacy (old unknown own : List TypeId) :
      onLegacyRuntime.LegacyAt (prints old unknown own) 0 :=
    ⟨_, rfl, _, rfl, rfl⟩
  have modern (old unknown own : List TypeId) :
      ¬onLegacyRuntime.LegacyAt (prints old unknown own) 1 := by
    rintro ⟨member, found, assembly, known, _⟩
    cases found
    cases known
  have called :
      onLegacyRuntime.resolve (prints [.short, .long] [.long, .long] [.short, .object]) (shorts 2) =
      .success 0 false false := by decide +kernel
  have takes : onLegacyRuntime.ApplicableAt
      (prints [.short, .long] [.long, .long] [.short, .object]) (shorts 2) 1 :=
    ⟨_, rfl, by decide +kernel⟩
  have same : onLegacyRuntime.SameRanksAt (prints [.short] [.short] []) (shorts 1) 0 1 :=
    ⟨_, _, rfl, rfl, rfl⟩
  have places : (onLegacyRuntime.applicable (prints [.short] [.short] []) (shorts 1)).map
      (·.index) = [0, 1] := by
    decide +kernel
  have only : ∀ third, onLegacyRuntime.ApplicableAt (prints [.short] [.short] []) (shorts 1) third →
      third = 0 ∨ third = 1 := by
    intro third
    rw [applicableAt_iff_mem, ← List.mem_map, places]
    simp
  obtain ⟨better, _⟩ := onLegacyRuntime.legacy_members_lose_ties _ (shorts 2)
  obtain ⟨_, tie⟩ := onLegacyRuntime.legacy_members_lose_ties _ (shorts 1)
  exact ⟨called, better 0 false false called (legacy _ _ _) 1 takes (modern _ _ _), same,
    (tie 0 1 (legacy _ _ _) (modern _ _ _) same).2.2 only⟩

end OverloadResolver

end DialectBinder
