import DialectBinder.Proofs.RegisteredTypes
import DialectBinder.Proofs.RuleCascade

/-! The legacy dialects allow what the core language allows. The one exception is an arithmetic
expression with an operand wider than the type it is converted from, since there the operands
decide. -/

namespace DialectBinder

namespace TypeTable

variable {table : TypeTable}

section

variable {id : TypeId} {info : TypeInfo} {primitive : Primitive} (entry : table.get? id = some info)
  (integer : info.IsInteger primitive)

include entry integer

theorem shape?_of_isInteger : table.shape? id = some .structType := by
  rw [shape?, entry, Option.map_some, integer.shape]

theorem primitive?_of_isInteger : table.primitive? id = some primitive := by
  rw [primitive?, entry, Option.bind_some, integer.tag]

theorem sizeInBytes_of_isInteger : table.sizeInBytes id = info.size := by
  simp only [sizeInBytes, underlying?, shape?_of_isInteger entry integer, Option.getD_none, entry]

theorem isImplicitReference_of_isInteger (target : TypeId) :
    table.isImplicitReference id target = false := by
  have value : table.isReferenceType id = false := by
    rw [isReferenceType, shape?_of_isInteger entry integer]
    rfl
  simp [isImplicitReference, referenceWithin?, value]

theorem boxes_of_isInteger (source : TypeId) : table.boxes source id = false := by
  have notObject : table.isObject id = false := by
    rw [isObject, primitive?_of_isInteger entry integer]
    have integral := integer.integral
    revert integral
    cases primitive <;> decide
  have notInterface : table.isInterface id = false := by
    rw [isInterface, shape?_of_isInteger entry integer]
    rfl
  simp [boxes, notObject, notInterface]

end

variable {source target : TypeId} {sourceInfo targetInfo : TypeInfo} {narrow wide : Primitive}

theorem closestOperator?_of_isInteger (sourceEntry : table.get? source = some sourceInfo)
    (sourceInteger : sourceInfo.IsInteger narrow)
    (targetEntry : table.get? target = some targetInfo) (targetInteger : targetInfo.IsInteger wide)
    (implicitOnly : Bool) :
    table.closestOperator? source target implicitOnly = none := by
  have undeclared : table.declaredOperators source target = [] := by
    simp [declaredOperators, sourceEntry, targetEntry, sourceInteger.plain, targetInteger.plain]
  rw [closestOperator?, undeclared]
  rfl

/-- The core language converts an integer to a larger one or not at all. -/
theorem sizeInBytes_lt_of_standardImplicit (sourceEntry : table.get? source = some sourceInfo)
    (sourceInteger : sourceInfo.IsInteger narrow)
    (targetEntry : table.get? target = some targetInfo) (targetInteger : targetInfo.IsInteger wide)
    (different : source ≠ target)
    (possible : (table.standardImplicit source target).isPossible = true) :
    table.sizeInBytes source < table.sizeInBytes target := by
  have apart : (source == target) = false := beq_eq_false_iff_ne.mpr different
  have notNull : table.isNull source = false := by
    rw [isNull, shape?_of_isInteger sourceEntry sourceInteger]
    rfl
  have numeric : table.isImplicitNumeric source target = true := by
    -- None of the other conversions of the core language leads from an integer to an integer.
    cases numeric : table.isImplicitNumeric source target with
    | true => rfl
    | false =>
      simp [standardImplicit, apart, sourceEntry, targetEntry, numeric, notNull,
        isImplicitReference_of_isInteger sourceEntry sourceInteger,
        boxes_of_isInteger targetEntry targetInteger,
        closestOperator?_of_isInteger sourceEntry sourceInteger targetEntry targetInteger,
        Conversion.ofOperator?, Conversion.isPossible] at possible
  have widens : narrow.widensTo wide = true := by
    simpa [isImplicitNumeric, primitive?_of_isInteger sourceEntry sourceInteger,
      primitive?_of_isInteger targetEntry targetInteger] using numeric
  obtain ⟨positive, less⟩ := Primitive.fixedWidth_lt_of_widensTo widens
    (by rw [sourceInteger.integral, targetInteger.integral]; rfl)
  rw [sizeInBytes_of_isInteger sourceEntry sourceInteger,
    sizeInBytes_of_isInteger targetEntry targetInteger,
    sourceInteger.size positive, targetInteger.size (Nat.lt_trans positive less)]
  exact less

end TypeTable

namespace Classifier

variable {classifier : Classifier} {query : ConversionQuery}

/-- All that has to hold for the rule on arithmetic expressions to decide against a conversion. -/
theorem binaryWidening?_rejects {outcome : ConversionOutcome}
    (decided : classifier.binaryWidening? query = some outcome)
    (rejected : outcome.conversion.isPossible = false) :
    ∃ expr, query.expr = some expr ∧ classifier.isArithmetic expr = true ∧
      (classifier.sourceCategory query).isIntegral = true ∧
        (classifier.targetCategory query).isIntegral = true ∧
      classifier.operandFits (largestOperand classifier.types classifier.exprs expr) query.target =
        false := by
  unfold binaryWidening? at decided
  split at decided
  · cases decided
  · rename_i expr given
    split at decided
    · rename_i integers
      simp only [Bool.and_eq_true] at integers
      obtain ⟨⟨arithmetic, source⟩, target⟩ := integers
      refine ⟨expr, given, arithmetic, source, target, ?_⟩
      simp only at decided
      split at decided
      · cases decided
      · split at decided
        · cases decided
          cases rejected
        · rename_i unfit
          simpa using unfit
    · cases decided

theorem legacyAnswer?_rejects {outcome : ConversionOutcome}
    (decided : classifier.legacyAnswer? query = some outcome)
    (rejected : outcome.conversion.isPossible = false) :
    classifier.binaryWidening? query = some outcome := by
  unfold legacyAnswer? at decided
  split at decided
  · obtain ⟨rule, _, applied⟩ := List.exists_of_findSome?_eq_some decided
    by_cases widening : rule = .binaryWidening
    · subst widening
      exact applied
    · rw [isPossible_of_applyRule? widening applied] at rejected
      cases rejected
  · cases decided

section

variable {types : TypeTable} {exprs : ExprArena} {core : Options}
    (coreDialect : core.dialect = .core)
  (options : Options)

include coreDialect

theorem lambdaConversion_of_core {lambda : ExprId} {target : TypeId}
    (possible : (lambdaConversion { types, exprs, options := core } lambda target).isPossible =
      true) :
    (lambdaConversion { types, exprs, options } lambda target).isPossible = true := by
  have rules : core.legacyRules = false := by rw [Options.legacyRules, coreDialect]; rfl
  simp only [lambdaConversion, rules, Bool.false_and, Bool.or_false, Bool.false_eq_true,
    ↓reduceIte] at possible ⊢
  split at possible
  · split at possible
    · split at possible
      · rename_i equal
        rw [equal, Bool.true_or, if_pos rfl]
        exact possible
      · cases possible
    · cases possible
  · cases possible

/-- What the core language converts is converted in every dialect, unless the operands decide
against it. -/
theorem implicit_of_core (reachable : types.Reachable)
    (possible : (implicit { types, exprs, options := core } query).isPossible = true) :
    (implicit { types, exprs, options } query).isPossible = true ∨
      ∃ expr, query.expr = some expr ∧ isArithmetic { types, exprs, options } expr = true ∧
        types.sizeInBytes query.source < types.sizeInBytes (largestOperand types exprs expr) := by
  cases lambda : query.expr.filter exprs.isLambda with
  | some expr =>
    have fromCore : implicit { types, exprs, options := core } query = _ :=
      implicit_of_lambda lambda
    have fromAny : implicit { types, exprs, options } query = _ := implicit_of_lambda lambda
    rw [fromCore] at possible
    rw [fromAny]
    exact .inl (lambdaConversion_of_core coreDialect options possible)
  | none =>
    by_cases same : query.source = query.target
    · have identity : implicit { types, exprs, options } query = .identity :=
        implicit_of_same lambda same
      rw [identity]
      exact .inl rfl
    · have fromCore : implicit { types, exprs, options := core } query = _ :=
        implicit_of_different lambda same
      have fromAny : implicit { types, exprs, options } query = _ :=
        implicit_of_different lambda same
      have noRules : legacyAnswer? { types, exprs, options := core } query = none := by
        simp [legacyAnswer?, Options.legacyRules, coreDialect, Dialect.hasLegacyRuntime]
      rw [fromCore, noRules] at possible
      rw [fromAny]
      cases answer : legacyAnswer? { types, exprs, options } query with
      | none => exact .inl possible
      | some outcome =>
        cases decision : outcome.conversion.isPossible with
        | true => exact .inl decision
        | false =>
          right
          obtain ⟨expr, given, arithmetic, source, target, unfit⟩ :=
            binaryWidening?_rejects (legacyAnswer?_rejects answer decision) decision
          obtain ⟨sourceInfo, narrow, sourceEntry, sourceInteger⟩ :=
            reachable.exists_isInteger source
          obtain ⟨targetInfo, wide, targetEntry, targetInteger⟩ := reachable.exists_isInteger target
          have widens : types.sizeInBytes query.source < types.sizeInBytes query.target :=
            TypeTable.sizeInBytes_lt_of_standardImplicit sourceEntry sourceInteger targetEntry
              targetInteger same
              possible
          refine ⟨expr, given, arithmetic, Nat.lt_of_lt_of_le widens ?_⟩
          simp only [operandFits, Bool.or_eq_false_iff, decide_eq_false_iff_not,
            Nat.not_lt] at unfit
          exact unfit.1.2

end

/-- The sum of two variables of 64 bits, taken for one of 16 bits. -/
def wideSum (dialect : Dialect) : Classifier where
  types := ((TypeTable.ofPointerSize 8).arrayOf .byte).1
  exprs := ⟨#[
    { kind := .variableAccess none, type := .int64, parent := some ⟨2⟩ },
    { kind := .variableAccess none, type := .int64, parent := some ⟨2⟩ },
    { kind := .binary .add ⟨0⟩ ⟨1⟩, type := .short }]⟩
  options := .forDialect dialect

/-- The sum is wanted as an integer of 32 bits. -/
def wideSumQuery : ConversionQuery := ⟨some ⟨2⟩, .short, .long⟩

/-- Every dialect has the implicit conversions of the core language, except from an arithmetic
expression with an operand wider than the source type. The rule on such expressions is the only one
that ever decides against a conversion. -/
theorem dialects_extend_core :
    (∀ types : TypeTable, types.Reachable →
      ∀ (exprs : ExprArena) (query : ConversionQuery) (core options : Options),
        core.dialect = .core →
        (implicit { types, exprs, options := core } query).isPossible = true →
        (implicit { types, exprs, options } query).isPossible = true ∨
          ∃ expr, query.expr = some expr ∧ isArithmetic { types, exprs, options } expr = true ∧
            types.sizeInBytes query.source < types.sizeInBytes (largestOperand types exprs expr)) ∧
    ∀ rule, (∃ (classifier : Classifier) (query : ConversionQuery) (outcome : ConversionOutcome),
        classifier.applyRule? query rule = some outcome ∧ outcome.conversion = .noConversion) ↔
      rule = .binaryWidening := by
  constructor
  · intro types reachable exprs query core options coreDialect possible
    exact implicit_of_core coreDialect options reachable possible
  · intro rule
    constructor
    · rintro ⟨classifier, query, outcome, decided, rejected⟩
      apply Decidable.byContradiction
      intro other
      have possible := isPossible_of_applyRule? other decided
      rw [rejected] at possible
      cases possible
    · rintro rfl
      exact ⟨wideSum .vo, wideSumQuery, ⟨.noConversion, {}⟩, by decide +kernel, rfl⟩

/-- The exception is real: a sum that is too wide for the target is rejected, though its own type
would widen. -/
theorem wideSum_converts_in_core_only :
    ((wideSum .core).implicit wideSumQuery).isPossible = true ∧
      ((wideSum .vo).implicit wideSumQuery).isPossible = false ∧
      ∃ expr, wideSumQuery.expr = some expr ∧ (wideSum .vo).isArithmetic expr = true ∧
        (wideSum .vo).types.sizeInBytes wideSumQuery.source <
          (wideSum .vo).types.sizeInBytes
          (largestOperand (wideSum .vo).types (wideSum .vo).exprs expr) := by
  have converts : ((wideSum .core).implicit wideSumQuery).isPossible = true := by decide +kernel
  have rejected : ((wideSum .vo).implicit wideSumQuery).isPossible = false := by decide +kernel
  have reachable : (wideSum .vo).types.Reachable := .step (.start 8) (.arrayOf .byte)
  refine ⟨converts, rejected, ?_⟩
  obtain possible | wider := dialects_extend_core.1 _ reachable (wideSum .vo).exprs wideSumQuery
    (.forDialect .core) (.forDialect .vo) rfl converts
  · exact absurd possible (Bool.eq_false_iff.mp rejected)
  · exact wider

end Classifier

end DialectBinder
