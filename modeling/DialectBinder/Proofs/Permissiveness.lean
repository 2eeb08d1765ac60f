import DialectBinder.Call.Applicability
import DialectBinder.Proofs.RuleCascade

/-! The compatibility switches only allow. Turning one on may let another rule decide, but what
converted before still converts, and a candidate that took the arguments of a call still takes
them. -/

namespace DialectBinder

/-- Options of one dialect and platform, where `lax` has on every switch that `strict` has on. -/
structure Options.Relaxes (lax strict : Options) : Prop where
  dialect : lax.dialect = strict.dialect
  pointerSize : lax.pointerSize = strict.pointerSize
  signedUnsigned : strict.signedUnsigned = true → lax.signedUnsigned = true
  arithmetic : strict.arithmetic = true → lax.arithmetic = true
  pointerMagic : strict.pointerMagic = true → lax.pointerMagic = true
  implicitCast : strict.implicitCast = true → lax.implicitCast = true
  lateBinding : strict.lateBinding = true → lax.lateBinding = true

namespace Options

theorem withPragma_relaxes (options : Options) (pragma : Pragma) :
    (options.withPragma pragma true).Relaxes options := by
  cases pragma <;> constructor <;> simp [withPragma]

variable {lax strict : Options}

theorem Relaxes.legacyRules (relaxes : lax.Relaxes strict) :
    lax.legacyRules = strict.legacyRules := by
  rw [Options.legacyRules, relaxes.dialect, Options.legacyRules]

theorem Relaxes.anyNumericCompatibility (relaxes : lax.Relaxes strict)
    (either : strict.anyNumericCompatibility = true) : lax.anyNumericCompatibility = true := by
  simp only [Options.anyNumericCompatibility, Bool.or_eq_true] at either ⊢
  exact either.imp relaxes.signedUnsigned relaxes.arithmetic

end Options

/-- The answer of a rule stays as it was, unless a conversion takes its place. -/
def Improves (before after : Option ConversionOutcome) : Prop :=
  after = before ∨ ∃ outcome, after = some outcome ∧ outcome.conversion.isPossible = true

namespace Improves

theorem refl (answer : Option ConversionOutcome) : Improves answer answer := .inl rfl

/-- A rule that does not decide against a conversion may decide where it passed. -/
theorem of_none {answer : Option ConversionOutcome}
    (possible : ∀ outcome, answer = some outcome → outcome.conversion.isPossible = true) :
    Improves none answer := by
  cases decided : answer with
  | none => exact .refl none
  | some outcome => exact .inr ⟨outcome, rfl, possible outcome decided⟩

theorem branch {condition : Prop} [Decidable condition]
    {before after otherBefore otherAfter : Option ConversionOutcome} (yes : Improves before after)
    (no : Improves otherBefore otherAfter) :
    Improves (if condition then before else otherBefore)
      (if condition then after else otherAfter) := by
  split
  · exact yes
  · exact no

section

variable {strict lax : Bool} (implied : strict = true → lax = true)

include implied

theorem guarded {outcome : ConversionOutcome} (possible : outcome.conversion.isPossible = true)
    {before after : Option ConversionOutcome} (otherwise : Improves before after) :
    Improves (if strict then some outcome else before) (if lax then some outcome else after) := by
  by_cases on : lax = true
  · exact .inr ⟨outcome, if_pos on, possible⟩
  · rw [if_neg on, if_neg fun also => on (implied also)]
    exact otherwise

/-- Without a switch the rule passes, and with it there is no decision against a conversion. -/
theorem unlocked {answer : Option ConversionOutcome}
    (possible : ∀ outcome, answer = some outcome → outcome.conversion.isPossible = true) :
    Improves (if !strict then none else answer) (if !lax then none else answer) := by
  cases strict with
  | true =>
    rw [implied rfl]
    exact .refl answer
  | false =>
    cases lax with
    | true => exact of_none possible
    | false => exact .refl none

end

theorem findSome? {before after : LegacyRule → Option ConversionOutcome}
    (improves : ∀ rule, Improves (before rule) (after rule)) (rules : List LegacyRule) :
    Improves (rules.findSome? before) (rules.findSome? after) := by
  induction rules with
  | nil => exact .refl none
  | cons rule rest ih =>
    rw [List.findSome?_cons, List.findSome?_cons]
    rcases improves rule with same | ⟨outcome, gained, possible⟩
    · rw [same]
      cases before rule with
      | none => exact ih
      | some outcome => exact .refl (some outcome)
    · rw [gained]
      exact .inr ⟨outcome, rfl, possible⟩

end Improves

namespace Classifier

/-- The classifier of the same types and expressions under other options. -/
def withOptions (classifier : Classifier) (options : Options) : Classifier :=
  { classifier with options }

section

variable (classifier : Classifier) (options : Options) (query : ConversionQuery)

@[simp]
theorem types_withOptions : (classifier.withOptions options).types = classifier.types := rfl

@[simp]
theorem exprs_withOptions : (classifier.withOptions options).exprs = classifier.exprs := rfl

@[simp]
theorem options_withOptions : (classifier.withOptions options).options = options := rfl

@[simp]
theorem sourceCategory_withOptions :
    (classifier.withOptions options).sourceCategory query = classifier.sourceCategory query := rfl

@[simp]
theorem targetCategory_withOptions :
    (classifier.withOptions options).targetCategory query = classifier.targetCategory query := rfl

@[simp]
theorem advice_withOptions (flags : Annotations) :
    (classifier.withOptions options).advice query flags = classifier.advice query flags := rfl

end

theorem isApplicable_iff {classifier : Classifier} {candidate : Member}
    {arguments : List Argument} :
    classifier.isApplicable candidate arguments = true ↔
      ∃ parameters,
        (normalForm? candidate arguments = some parameters ∨
          classifier.expandedForm? candidate arguments = some parameters) ∧
        (classifier.bindForm? arguments parameters).isSome = true := by
  unfold isApplicable bindArguments? chosenForm?
  split
  · rename_i written normal
    obtain ⟨present, binds⟩ := Option.filter_eq_some_iff.mp normal
    simp only [Option.bind_some, binds, true_iff]
    exact ⟨written, .inl present, binds⟩
  · rename_i normal
    rw [Option.isSome_bind, Option.any_eq_true]
    constructor
    · rintro ⟨parameters, expanded, binds⟩
      exact ⟨parameters, .inr expanded, binds⟩
    · rintro ⟨parameters, written | expanded, binds⟩
      · rw [written, Option.filter_some, if_pos binds] at normal
        cases normal
      · exact ⟨parameters, expanded, binds⟩

variable {classifier : Classifier} {lax : Options} (relaxes : lax.Relaxes classifier.options)

section

variable (query : ConversionQuery)

include relaxes

theorem charAliasing?_improves :
    Improves (classifier.charAliasing? query)
      ((classifier.withOptions lax).charAliasing? query) := by
  have implied {size : Nat} (on : (size == 1 && classifier.options.arithmetic) = true) :
      (size == 1 && lax.arithmetic) = true := by
    rw [Bool.and_eq_true] at on ⊢
    exact on.imp_right relaxes.arithmetic
  simp only [charAliasing?, sourceCategory_withOptions, targetCategory_withOptions]
  split
  · exact .guarded id rfl (.guarded implied rfl (.refl none))
  · exact .guarded id rfl (.guarded implied rfl (.refl none))
  · exact .refl none

theorem pointerToObject?_improves :
    Improves (classifier.pointerToObject? query)
      ((classifier.withOptions lax).pointerToObject? query) := by
  simp only [pointerToObject?, sourceCategory_withOptions, targetCategory_withOptions]
  split
  · exact .guarded relaxes.pointerMagic rfl (.refl none)
  · exact .guarded relaxes.pointerMagic rfl (.refl none)
  · exact .refl none

theorem crossWidthNumeric?_improves :
    Improves (classifier.crossWidthNumeric? query)
      ((classifier.withOptions lax).crossWidthNumeric? query) := by
  by_cases either : classifier.options.anyNumericCompatibility = true
  · have also : lax.anyNumericCompatibility = true := relaxes.anyNumericCompatibility either
    simp only [crossWidthNumeric?, options_withOptions, either, also, Bool.not_true,
      Bool.false_eq_true, ↓reduceIte,
      sourceCategory_withOptions, targetCategory_withOptions, types_withOptions, advice_withOptions]
    apply Improves.branch
    · exact .guarded relaxes.arithmetic rfl (.refl none)
    · apply Improves.branch (.refl none)
      apply Improves.branch (.refl _)
      apply Improves.unlocked relaxes.arithmetic
      intro outcome decided
      split at decided <;> cases decided <;> rfl
  · have passes : classifier.crossWidthNumeric? query = none := by simp [crossWidthNumeric?, either]
    rw [passes]
    apply Improves.of_none
    intro outcome decided
    have other : LegacyRule.crossWidthNumeric ≠ .binaryWidening := by decide
    exact isPossible_of_applyRule? other decided

theorem operandFits_of_relaxes {operand target : TypeId}
    (fits : classifier.operandFits operand target = true) :
    (classifier.withOptions lax).operandFits operand target = true := by
  simp only [operandFits, Bool.or_eq_true, Bool.and_eq_true] at fits ⊢
  exact fits.imp_right fun ⟨sizes, signs⟩ => ⟨sizes, signs.imp_right relaxes.signedUnsigned⟩

/-- The one rule that decides against conversions does so no more often. -/
theorem binaryWidening?_improves :
    Improves (classifier.binaryWidening? query)
      ((classifier.withOptions lax).binaryWidening? query) := by
  simp only [binaryWidening?, sourceCategory_withOptions, targetCategory_withOptions,
    types_withOptions, exprs_withOptions]
  split
  · exact .refl none
  · rename_i expr _
    have arithmetic : (classifier.withOptions lax).isArithmetic expr =
        classifier.isArithmetic expr := rfl
    rw [arithmetic]
    exact .branch (.branch (.refl none) (.guarded (operandFits_of_relaxes relaxes) rfl (.refl _)))
      (.refl none)

theorem objectBridging?_improves :
    Improves (classifier.objectBridging? query)
      ((classifier.withOptions lax).objectBridging? query) := by
  simp only [objectBridging?, sourceCategory_withOptions, targetCategory_withOptions,
    types_withOptions, exprs_withOptions, options_withOptions]
  apply Improves.branch (.refl _)
  apply Improves.guarded
  · simp only [Bool.and_eq_true, Bool.or_eq_true, and_assoc]
    exact And.imp_left (Or.imp relaxes.lateBinding relaxes.implicitCast)
  · rfl
  · apply Improves.unlocked relaxes.implicitCast
    intro outcome decided
    repeat' split at decided
    all_goals cases decided
    all_goals rfl

theorem applyRule?_improves (rule : LegacyRule) :
    Improves (classifier.applyRule? query rule)
      ((classifier.withOptions lax).applyRule? query rule) := by
  cases rule with
  | charAliasing => exact charAliasing?_improves relaxes query
  | pointerToObject => exact pointerToObject?_improves relaxes query
  | crossWidthNumeric => exact crossWidthNumeric?_improves relaxes query
  | binaryWidening => exact binaryWidening?_improves relaxes query
  | objectBridging => exact objectBridging?_improves relaxes query
  | legacyCast =>
    have same : (classifier.withOptions lax).legacyCast? query = classifier.legacyCast? query := by
      simp only [legacyCast?, castConversion?, sourceCategory_withOptions,
        targetCategory_withOptions,
        types_withOptions, exprs_withOptions, options_withOptions, relaxes.pointerSize]
    exact .inl same
  | nullToUsual | nativeInt | usualSource | numericFallback => exact .refl _

theorem legacyAnswer?_improves :
    Improves (classifier.legacyAnswer? query)
      ((classifier.withOptions lax).legacyAnswer? query) := by
  simp only [legacyAnswer?, options_withOptions, relaxes.legacyRules]
  split
  · exact .findSome? (applyRule?_improves relaxes query) LegacyRule.all
  · exact .refl none

theorem lambdaConversion_of_relaxes (lambda : ExprId) (target : TypeId) :
    (classifier.withOptions lax).lambdaConversion lambda target =
    classifier.lambdaConversion lambda target := by
  simp only [lambdaConversion, types_withOptions, exprs_withOptions, options_withOptions,
    relaxes.legacyRules]

theorem hasBoxing_of_relaxes (source target : TypeId) :
    (classifier.withOptions lax).hasBoxing source target = classifier.hasBoxing source target := by
  unfold hasBoxing
  rw [options_withOptions, relaxes.legacyRules]
  rfl

variable {query}

theorem implicit_of_relaxes (possible : (classifier.implicit query).isPossible = true) :
    ((classifier.withOptions lax).implicit query).isPossible = true := by
  cases lambda : query.expr.filter classifier.exprs.isLambda with
  | some expr =>
    have laxLambda : query.expr.filter (classifier.withOptions lax).exprs.isLambda =
        some expr := lambda
    rw [implicit_of_lambda lambda] at possible
    rw [implicit_of_lambda laxLambda, lambdaConversion_of_relaxes relaxes]
    exact possible
  | none =>
    have laxLambda : query.expr.filter (classifier.withOptions lax).exprs.isLambda = none := lambda
    by_cases same : query.source = query.target
    · rw [implicit_of_same laxLambda same]
      rfl
    · rw [implicit_of_different lambda same] at possible
      rw [implicit_of_different laxLambda same]
      rcases legacyAnswer?_improves relaxes query with kept | ⟨outcome, gained, converts⟩
      · rw [kept]
        exact possible
      · rw [gained]
        exact converts

theorem explicit_of_relaxes (possible : (classifier.explicit query).isPossible = true) :
    ((classifier.withOptions lax).explicit query).isPossible = true := by
  by_cases implicit : ((classifier.withOptions lax).implicit query).isPossible = true
  · simp only [explicit, implicit, ↓reduceIte]
  · -- Then there was no implicit conversion before either, and the rest does not read the switches.
    have before : ¬(classifier.implicit query).isPossible = true := fun was =>
      implicit (implicit_of_relaxes relaxes was)
    simp only [explicit, before, Bool.false_eq_true, ↓reduceIte] at possible
    simp only [explicit, implicit, Bool.false_eq_true, ↓reduceIte, options_withOptions,
      relaxes.legacyRules, hasBoxing_of_relaxes relaxes]
    exact possible

end

section

include relaxes

theorem argumentOutcome_of_relaxes {argument : Argument} {parameter : Parameter}
    (possible : (classifier.argumentOutcome argument parameter).conversion.isPossible = true) :
    ((classifier.withOptions lax).argumentOutcome argument parameter).conversion.isPossible =
    true := by
  unfold argumentOutcome passingAgrees at possible ⊢
  rw [options_withOptions, relaxes.legacyRules]
  split at possible
  · rename_i byReference
    rw [if_pos byReference]
    exact possible
  · rename_i byValue
    rw [if_neg byValue]
    exact implicit_of_relaxes relaxes possible

theorem bindForm?_of_relaxes {arguments : List Argument} {parameters : List Parameter}
    (binds : (classifier.bindForm? arguments parameters).isSome = true) :
    ((classifier.withOptions lax).bindForm? arguments parameters).isSome = true := by
  induction arguments generalizing parameters with
  | nil => rfl
  | cons argument arguments ih =>
    cases parameters with
    | nil => rfl
    | cons parameter parameters =>
      simp only [bindForm?] at binds ⊢
      split at binds
      · rename_i possible
        rw [if_pos (argumentOutcome_of_relaxes relaxes possible), Option.isSome_map]
        rw [Option.isSome_map] at binds
        exact ih binds
      · cases binds

theorem isApplicable_of_relaxes {candidate : Member} {arguments : List Argument}
    (takes : classifier.isApplicable candidate arguments = true) :
    (classifier.withOptions lax).isApplicable candidate arguments = true := by
  obtain ⟨parameters, form, binds⟩ := isApplicable_iff.mp takes
  exact isApplicable_iff.mpr ⟨parameters, form, bindForm?_of_relaxes relaxes binds⟩

end

/-- Turning a switch on loses no implicit conversion, no cast and no applicable candidate. -/
theorem conversions_survive_pragma (classifier : Classifier) (pragma : Pragma) :
    (∀ query, (classifier.implicit query).isPossible = true →
      ((classifier.withOptions (classifier.options.withPragma pragma true)).implicit
        query).isPossible = true) ∧
    (∀ query, (classifier.explicit query).isPossible = true →
      ((classifier.withOptions (classifier.options.withPragma pragma true)).explicit
        query).isPossible = true) ∧
    ∀ candidate arguments, classifier.isApplicable candidate arguments = true →
      (classifier.withOptions (classifier.options.withPragma pragma true)).isApplicable candidate
      arguments = true := by
  have relaxes := classifier.options.withPragma_relaxes pragma
  refine ⟨?_, ?_, ?_⟩
  · intro query possible
    exact implicit_of_relaxes relaxes possible
  · intro query possible
    exact explicit_of_relaxes relaxes possible
  · intro candidate arguments takes
    exact isApplicable_of_relaxes relaxes takes

/-- The sum of two variables of one byte each, which has the static type `LONG`. -/
def byteSum : Classifier where
  types := .ofPointerSize 8
  exprs := ⟨#[
    { kind := .variableAccess none, type := .byte, parent := some ⟨2⟩ },
    { kind := .variableAccess none, type := .byte, parent := some ⟨2⟩ },
    { kind := .binary .add ⟨0⟩ ⟨1⟩, type := .long }]⟩
  options := .forDialect .vo

def laxByteSum : Classifier :=
  byteSum.withOptions (byteSum.options.withPragma .arithmeticConversions true)

def putByte : Member :=
  { symbol := ⟨0⟩, name := "Put", container := "Functions", parameters := [{ type := .byte }] }

/-- With arithmetic conversions another rule lets the sum of bytes be a byte, and a cast becomes an
implicit conversion. -/
theorem byteSum_survives_arithmetic :
    (byteSum.classify (.ofExpr byteSum.exprs ⟨2⟩ .byte)).decidedBy = .legacy .binaryWidening ∧
      (laxByteSum.classify (.ofExpr byteSum.exprs ⟨2⟩ .byte)).decidedBy =
        .legacy .crossWidthNumeric ∧
      (laxByteSum.implicit (.ofExpr byteSum.exprs ⟨2⟩ .byte)).isPossible = true ∧
      byteSum.implicit ⟨none, .real8, .long⟩ = .noConversion ∧
      (laxByteSum.explicit ⟨none, .real8, .long⟩).isPossible = true ∧
      laxByteSum.isApplicable putByte [.ofExpr byteSum.exprs ⟨2⟩] = true := by
  obtain ⟨implicit, explicit, applicable⟩ :=
    byteSum.conversions_survive_pragma .arithmeticConversions
  refine ⟨by decide, by decide, ?_, by decide, ?_, ?_⟩
  · exact implicit (.ofExpr byteSum.exprs ⟨2⟩ .byte) (by decide)
  · exact explicit ⟨none, .real8, .long⟩ (by decide)
  · exact applicable putByte [.ofExpr byteSum.exprs ⟨2⟩] (by decide)

end Classifier

end DialectBinder
