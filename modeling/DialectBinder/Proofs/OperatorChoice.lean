import DialectBinder.Proofs.ArrayCovariance

/-! Which user-defined operator takes one type to another. Of all that the two types declare, it is
the first whose parameter is nearest to the source, and there is none only if no parameter can be
reached at all. -/

namespace DialectBinder

namespace TypeTable

section FirstLeast

variable {Item Content : Type} {entries : List (Nat × Content)} {entry : Nat × Content}

theorem firstLeast_eq_none_iff : firstLeast entries = none ↔ entries = [] := by
  cases entries with
  | nil => simp [firstLeast]
  | cons first rest =>
    simp only [firstLeast, List.cons_ne_nil, iff_false]
    cases firstLeast rest with
    | none => simp
    | some least => by_cases less : least.1 < first.1 <;> simp [less]

end FirstLeast

section Distance

/-- The ways from a type to the parameter of an operator, from the nearest to the farthest: the
types are the same, the parameter is a wider number, the type is a reference of it, or it is the
object that a value is boxed in. -/
inductive Reaches (types : TypeTable) (source parameter : TypeId) : Nat → Prop where
  | same (equal : source = parameter) : Reaches types source parameter 0
  | wider (widens : types.isImplicitNumeric source parameter = true) :
      Reaches types source parameter 1
  | reference (refers : types.isImplicitReference source parameter = true) :
      Reaches types source parameter 2
  | boxed (value : types.isValueType source = true) (root : types.isObject parameter = true) :
      Reaches types source parameter 3

/-- The nearest way from a type to a parameter. -/
structure AtDistance (types : TypeTable) (source parameter : TypeId) (distance : Nat) : Prop where
  reached : types.Reaches source parameter distance
  nearest : ∀ nearer, types.Reaches source parameter nearer → distance ≤ nearer

variable {types : TypeTable} {source parameter : TypeId} {distance : Nat}

theorem reaches_of_parameterDistance?
    (measured : types.parameterDistance? source parameter = some distance) :
    types.Reaches source parameter distance := by
  unfold parameterDistance? at measured
  split at measured
  · rename_i equal
    cases measured
    exact .same (beq_iff_eq.mp equal)
  split at measured
  · rename_i widens
    cases measured
    exact .wider widens
  split at measured
  · rename_i refers
    cases measured
    exact .reference refers
  split at measured
  · rename_i boxed
    cases measured
    obtain ⟨value, root⟩ := Bool.and_eq_true_iff.mp boxed
    exact .boxed value root
  · cases measured

/-- Whatever way there is to a parameter, its distance is no greater. -/
theorem parameterDistance?_le (reaches : types.Reaches source parameter distance) :
    ∃ found ≤ distance, types.parameterDistance? source parameter = some found := by
  unfold parameterDistance?
  -- The ways are tried in the order of their distances, so those before the given one can only be
  -- nearer.
  split
  · exact ⟨0, Nat.zero_le distance, rfl⟩
  rename_i different
  split
  · refine ⟨1, ?_, rfl⟩
    cases reaches with
    | same equal => exact absurd (beq_iff_eq.mpr equal) different
    | wider _ | reference _ | boxed _ _ => omega
  rename_i unwidened
  cases reaches with
  | same equal => exact absurd (beq_iff_eq.mpr equal) different
  | wider widens => exact absurd widens unwidened
  | reference refers => exact ⟨2, Nat.le_refl 2, by rw [if_pos refers]⟩
  | boxed value root =>
    rw [value, root]
    split
    · exact ⟨2, by omega, rfl⟩
    · exact ⟨3, Nat.le_refl 3, rfl⟩

theorem parameterDistance?_eq_some_iff :
    types.parameterDistance? source parameter = some distance ↔
      types.AtDistance source parameter distance := by
  constructor
  · intro measured
    refine ⟨reaches_of_parameterDistance? measured, ?_⟩
    intro nearer reaches
    obtain ⟨found, le, answer⟩ := parameterDistance?_le reaches
    rw [measured] at answer
    cases answer
    exact le
  · intro measured
    obtain ⟨found, le, answer⟩ := parameterDistance?_le measured.reached
    have same : found = distance :=
      Nat.le_antisymm le (measured.nearest found (reaches_of_parameterDistance? answer))
    rw [answer, same]

end Distance

section Choice

variable (types : TypeTable) (source target : TypeId) (implicitOnly : Bool)

/-- An operator takes the source to the target, with its parameter at this distance from the
source. -/
structure ConvertsAt (operator : ConversionOperator) (distance : Nat) : Prop where
  result : operator.result = target
  allowed : implicitOnly = true → operator.implicit = true
  parameter : types.AtDistance source operator.parameter distance

/-- What the choice compares of an operator, if it converts at all. -/
def measureOperator (operator : ConversionOperator) : Option (Nat × SymbolId) :=
  if operator.result == target && (operator.implicit || !implicitOnly) then
    (types.parameterDistance? source operator.parameter).map (·, operator.symbol)
  else none

variable {types source target implicitOnly}

theorem measureOperator_eq_some_iff {operator : ConversionOperator} {entry : Nat × SymbolId} :
    types.measureOperator source target implicitOnly operator = some entry ↔
      types.ConvertsAt source target implicitOnly operator entry.1 ∧ operator.symbol = entry.2 := by
  have passes : (operator.result == target && (operator.implicit || !implicitOnly)) = true ↔
      operator.result = target ∧ (implicitOnly = true → operator.implicit = true) := by
    cases implicitOnly <;> simp
  rw [measureOperator, Option.ite_none_right_eq_some, passes, Option.map_eq_some_iff]
  constructor
  · rintro ⟨⟨result, allowed⟩, distance, measured, rfl⟩
    exact ⟨⟨result, allowed, parameterDistance?_eq_some_iff.mp measured⟩, rfl⟩
  · intro ⟨converts, symbol⟩
    refine ⟨⟨converts.result, converts.allowed⟩, entry.1,
      parameterDistance?_eq_some_iff.mpr converts.parameter, ?_⟩
    rw [symbol]

theorem ConvertsAt.measured {operator : ConversionOperator} {distance : Nat}
    (converts : types.ConvertsAt source target implicitOnly operator distance) :
    types.measureOperator source target implicitOnly operator = some (distance, operator.symbol) :=
  measureOperator_eq_some_iff.mpr ⟨converts, rfl⟩

theorem closestOperator?_eq :
    types.closestOperator? source target implicitOnly =
      (firstLeast ((types.declaredOperators source target).filterMap
        (types.measureOperator source target implicitOnly))).map Prod.snd := by
  rw [closestOperator?, List.filterMap_filter]
  rfl

theorem closestOperator?_eq_none_iff :
    types.closestOperator? source target implicitOnly = none ↔
      ∀ operator ∈ types.declaredOperators source target, ∀ distance,
        ¬types.ConvertsAt source target implicitOnly operator distance := by
  rw [closestOperator?_eq, Option.map_eq_none_iff, firstLeast_eq_none_iff,
    List.filterMap_eq_nil_iff]
  refine forall₂_congr fun operator _ => ?_
  constructor
  · intro unmeasured distance converts
    rw [converts.measured] at unmeasured
    cases unmeasured
  · intro fails
    cases measured : types.measureOperator source target implicitOnly operator with
    | none => rfl
    | some entry => exact False.elim (fails entry.1 (measureOperator_eq_some_iff.mp measured).1)

theorem declaredOperators_eq {sourceInfo targetInfo : TypeInfo}
    (sourceKnown : types.get? source = some sourceInfo)
    (targetKnown : types.get? target = some targetInfo) :
    types.declaredOperators source target = sourceInfo.operators ++ targetInfo.operators := by
  simp [declaredOperators, sourceKnown, targetKnown]

theorem ofOperator?_eq_noConversion_iff {operator? : Option SymbolId} :
    Conversion.ofOperator? operator? = .noConversion ↔ operator? = none := by
  cases operator? <;> simp [Conversion.ofOperator?]

/-- No conversion of the core language itself takes the source to the target: no number is widened,
`NULL` is no reference here, references are unrelated and values are not boxed. -/
structure LacksBuiltIn (types : TypeTable) (source target : TypeId) : Prop where
  number : types.isImplicitNumeric source target = false
  null : (types.isNull source && (types.isReferenceType target || types.isPointer target)) = false
  reference : types.isImplicitReference source target = false
  boxing : types.boxes source target = false

/-- No cast of the core language itself takes the source to the target: not between numbers, down to
a derived type, to or from an interface, or out of a box. -/
structure LacksCast (types : TypeTable) (source target : TypeId) : Prop where
  number : (types.isNumericLike source && types.isNumericLike target) = false
  reference : (types.isReferenceType source && types.isReferenceType target &&
    (types.derivesFrom target source || types.isInterface source || types.isInterface target)) =
      false
  unboxing : (types.isValueType target &&
    (types.isObject source ||
      (types.isInterface source && types.implementsInterface target source))) = false

theorem LacksBuiltIn.standardImplicit_eq (lacks : types.LacksBuiltIn source target)
    (different : source ≠ target) (sourceKnown : (types.get? source).isSome = true)
    (targetKnown : (types.get? target).isSome = true) :
    types.standardImplicit source target =
      .ofOperator? (types.closestOperator? source target true) := by
  simp [standardImplicit, different, Option.isSome_iff_ne_none.mp sourceKnown,
    Option.isSome_iff_ne_none.mp targetKnown,
    lacks.number, lacks.null, lacks.reference, lacks.boxing]

theorem LacksCast.standardExplicit_eq (lacks : types.LacksCast source target)
    (impossible : types.standardImplicit source target = .noConversion) :
    types.standardExplicit source target =
      .ofOperator? (types.closestOperator? source target false) := by
  simp [standardExplicit, impossible, Conversion.isPossible, lacks.number,
    lacks.reference, lacks.unboxing]

theorem lacksBuiltIn_of_noConversion (different : source ≠ target)
    (sourceKnown : (types.get? source).isSome = true)
    (targetKnown : (types.get? target).isSome = true)
    (impossible : types.standardImplicit source target = .noConversion) :
    types.LacksBuiltIn source target := by
  simp only [standardImplicit, beq_eq_false_iff_ne.mpr different,
    Option.isNone_eq_false_iff.mpr sourceKnown,
    Option.isNone_eq_false_iff.mpr targetKnown, Bool.or_false, Bool.false_eq_true,
    ↓reduceIte] at impossible
  repeat' split at impossible
  all_goals try cases impossible
  rename_i number null reference boxing
  exact ⟨Bool.eq_false_iff.mpr number, Bool.eq_false_iff.mpr null, Bool.eq_false_iff.mpr reference,
    Bool.eq_false_iff.mpr boxing⟩

theorem lacksCast_of_noConversion (fails : types.standardExplicit source target = .noConversion) :
    types.standardImplicit source target = .noConversion ∧ types.LacksCast source target ∧
      types.closestOperator? source target false = none := by
  simp only [standardExplicit] at fails
  by_cases possible : (types.standardImplicit source target).isPossible = true
  · rw [if_pos possible] at fails
    rw [fails] at possible
    cases possible
  · rw [if_neg possible] at fails
    have impossible : types.standardImplicit source target = .noConversion := by
      simpa [Conversion.isPossible] using possible
    repeat' split at fails
    all_goals try cases fails
    rename_i number reference unboxing
    exact ⟨impossible, ⟨Bool.eq_false_iff.mpr number, Bool.eq_false_iff.mpr reference,
      Bool.eq_false_iff.mpr unboxing⟩,
      ofOperator?_eq_noConversion_iff.mp fails⟩

theorem ConvertsAt.of_implicit {operator : ConversionOperator} {distance : Nat}
    (converts : types.ConvertsAt source target true operator distance) :
    types.ConvertsAt source target false operator distance :=
  ⟨converts.result, fun explicit => Bool.noConfusion explicit, converts.parameter⟩

/-- A cast fails exactly if neither the conversions nor the casts of the core language apply and no
operator does. -/
theorem standardExplicit_eq_noConversion_iff (different : source ≠ target)
    (sourceKnown : (types.get? source).isSome = true)
    (targetKnown : (types.get? target).isSome = true) :
    types.standardExplicit source target = .noConversion ↔
      types.LacksBuiltIn source target ∧ types.LacksCast source target ∧
        types.closestOperator? source target false = none := by
  constructor
  · intro fails
    obtain ⟨impossible, lacksCast, noOperator⟩ := lacksCast_of_noConversion fails
    exact ⟨lacksBuiltIn_of_noConversion different sourceKnown targetKnown impossible,
      lacksCast, noOperator⟩
  · intro ⟨lacks, lacksCast, noOperator⟩
    have noImplicit : types.closestOperator? source target true = none := by
      rw [closestOperator?_eq_none_iff] at noOperator ⊢
      exact fun operator declared distance converts =>
        noOperator operator declared distance converts.of_implicit
    have impossible : types.standardImplicit source target = .noConversion := by
      rw [lacks.standardImplicit_eq different sourceKnown targetKnown, noImplicit]
      rfl
    rw [lacksCast.standardExplicit_eq impossible, noOperator]
    rfl

end Choice

/-- A structure that one of two arrays converts to, both of which are their own elements. -/
def wrapper : TypeDeclaration where
  name := "Wrapper"
  shape := .structType 8
  operators := [⟨⟨1⟩, ⟨34⟩, ⟨35⟩, true⟩]

def wrappers : TypeTable := (Classifier.ownElements.types.register wrapper).1

/-- Where the comparison with a parameter does not come to an end, no depth suffices to choose. -/
theorem wrapper_never_chosen (depth : Nat) :
    wrappers.Reachable ∧ wrappers.LacksBuiltIn ⟨33⟩ ⟨35⟩ ∧
      wrappers.implicitWithin? depth ⟨33⟩ ⟨35⟩ = none := by
  have reachable : wrappers.Reachable := .step Classifier.ownElements_reachable (.register wrapper)
  have lacks : wrappers.LacksBuiltIn ⟨33⟩ ⟨35⟩ :=
    ⟨by decide +kernel, by decide +kernel, by decide +kernel, by decide +kernel⟩
  have unending : ¬wrappers.ComparisonEnds ⟨33⟩ ⟨34⟩ :=
    not_comparisonEnds_of_own_element (by decide +kernel) (by decide +kernel) (by decide)
  have undecided := reachable.referenceWithin?_of_unending unending depth
  have operators : wrappers.declaredOperators ⟨33⟩ ⟨35⟩ = wrapper.operators := by decide +kernel
  have noNumber : wrappers.isImplicitNumeric ⟨33⟩ ⟨34⟩ = false := by decide +kernel
  have unmeasured : wrappers.operatorWithin? depth ⟨33⟩ ⟨35⟩ true = none := by
    simp [operatorWithin?, operators, wrapper, measureWithin?, parameterWithin?,
      noNumber, undecided]
  have known : ((wrappers.get? ⟨33⟩).isNone || (wrappers.get? ⟨35⟩).isNone) =
      false := by decide +kernel
  have apart : (TypeId.mk 33 == TypeId.mk 35) = false := by decide
  refine ⟨reachable, lacks, ?_⟩
  simp only [implicitWithin?, apart, known, lacks.number, lacks.null, lacks.boxing, unmeasured,
    Bool.false_eq_true, ↓reduceIte]
  cases decided : wrappers.referenceWithin? depth ⟨33⟩ ⟨35⟩ with
  | none => rfl
  | some refers =>
    have refused : refers = false :=
      (isImplicitReference_of_decided decided).symm.trans lacks.reference
    rw [refused]
    rfl

end TypeTable

end DialectBinder
