import DialectBinder.Conversion.Classification

/-! The legacy rules as one answer, given by the first of them that decides. All of them decide in
favour of a conversion, except the one on the operands of an arithmetic expression. -/

namespace DialectBinder.Classifier

variable (classifier : Classifier) (query : ConversionQuery)

/-- What the legacy rules say about a query, where the dialect has them. -/
def legacyAnswer? : Option ConversionOutcome :=
  if classifier.options.legacyRules then LegacyRule.all.findSome? (classifier.applyRule? query)
  else none

theorem firstRule?_outcome :
    (classifier.firstRule? query).map Prod.snd =
    LegacyRule.all.findSome? (classifier.applyRule? query) := by
  unfold firstRule?
  induction LegacyRule.all with
  | nil => rfl
  | cons rule rest ih =>
    cases answer : classifier.applyRule? query rule with
    | none => simpa [answer] using ih
    | some outcome => simp [answer]

variable {classifier query}

theorem implicit_of_lambda {lambda : ExprId}
    (isLambda : query.expr.filter classifier.exprs.isLambda = some lambda) :
    classifier.implicit query = classifier.lambdaConversion lambda query.target := by
  simp only [implicit, classify, isLambda]

theorem implicit_of_same (noLambda : query.expr.filter classifier.exprs.isLambda = none)
    (same : query.source = query.target) : classifier.implicit query = .identity := by
  simp only [implicit, classify, noLambda, same, beq_self_eq_true, ↓reduceIte]

theorem implicit_of_different (noLambda : query.expr.filter classifier.exprs.isLambda = none)
    (different : query.source ≠ query.target) :
    classifier.implicit query = ((classifier.legacyAnswer? query).map (·.conversion)).getD
      (classifier.standard.implicit classifier.types query.source query.target) := by
  have apart : (query.source == query.target) = false := beq_eq_false_iff_ne.mpr different
  simp only [implicit, classify, noLambda, apart, Bool.false_eq_true, ↓reduceIte, legacyAnswer?,
    ← firstRule?_outcome]
  by_cases legacy : classifier.options.legacyRules = true
  · simp only [legacy, ↓reduceIte]
    cases classifier.firstRule? query <;> rfl
  · simp [legacy]

theorem classify_of_rule (noLambda : query.expr.filter classifier.exprs.isLambda = none)
    (different : query.source ≠ query.target) (legacy : classifier.options.legacyRules = true)
    {rule : LegacyRule} {outcome : ConversionOutcome}
    (first : classifier.firstRule? query = some (rule, outcome)) :
    classifier.classify query = ⟨outcome, .legacy rule⟩ := by
  simp [classify, noLambda, different, legacy, first]

theorem classify_of_no_rule (noLambda : query.expr.filter classifier.exprs.isLambda = none)
    (different : query.source ≠ query.target) (silent : classifier.firstRule? query = none) :
    classifier.classify query =
      ⟨⟨classifier.standard.implicit classifier.types query.source query.target, {}⟩,
        .standard⟩ := by
  simp [classify, noLambda, different, silent]

theorem applyRule?_of_decidedBy {rule : LegacyRule}
    (decided : (classifier.classify query).decidedBy = .legacy rule) :
    classifier.applyRule? query rule = some (classifier.classify query).toConversionOutcome := by
  revert decided
  unfold classify
  split
  · intro decided
    cases decided
  split
  · intro decided
    cases decided
  split
  · rename_i _ outcome first
    intro decided
    cases decided
    have found : classifier.firstRule? query = some (rule, outcome) :=
      (Option.ite_none_right_eq_some.mp first).2
    obtain ⟨asked, _, applied⟩ := List.exists_of_findSome?_eq_some found
    obtain ⟨given, answer, same⟩ := Option.map_eq_some_iff.mp applied
    cases same
    exact answer
  · intro decided
    cases decided

theorem isPossible_of_castConversion? {conversion : Conversion}
    (cast : classifier.castConversion? query = some conversion) : conversion.isPossible = true := by
  simp only [castConversion?] at cast
  repeat' split at cast
  all_goals cases cast
  all_goals rfl

/-- Only the rule on arithmetic expressions decides against a conversion. -/
theorem isPossible_of_applyRule? {rule : LegacyRule} (other : rule ≠ .binaryWidening)
    {outcome : ConversionOutcome} (decided : classifier.applyRule? query rule = some outcome) :
    outcome.conversion.isPossible = true := by
  cases rule with
  | binaryWidening => exact absurd rfl other
  | nullToUsual =>
    simp only [applyRule?, nullToUsual?] at decided
    split at decided
    · simp only [Option.bind_eq_bind, Option.bind_eq_some_iff, Option.pure_def,
        Option.some.injEq] at decided
      obtain ⟨info, _, operator, _, rfl⟩ := decided
      rfl
    · cases decided
  | legacyCast =>
    simp only [applyRule?, legacyCast?] at decided
    split at decided
    · obtain ⟨conversion, cast, rfl⟩ := Option.map_eq_some_iff.mp decided
      exact isPossible_of_castConversion? cast
    · cases decided
  | charAliasing | nativeInt | pointerToObject | crossWidthNumeric | usualSource | objectBridging
  | numericFallback =>
    simp only [applyRule?, charAliasing?, nativeInt?, pointerToObject?, crossWidthNumeric?,
      usualSource?, objectBridging?, numericFallback?] at decided
    repeat' split at decided
    all_goals cases decided
    all_goals rfl

end DialectBinder.Classifier
