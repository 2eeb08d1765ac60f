import Mathlib.Data.Fintype.Prod
import DialectBinder.Proofs.ElementChains
import DialectBinder.Proofs.Lists
import DialectBinder.Proofs.RuleCascade

/-! Conversions as far as a depth of comparison goes. Where comparing two arrays does not come to an
end, a classification that asks for it has no answer. Here every question that can lead to a
comparison is asked with a depth, and has an answer only if the depth suffices; such an answer is
that of the classifier. -/

namespace DialectBinder

namespace TypeTable

/-- The answer on two references that does without their element types. -/
def referenceHere? (types : TypeTable) (source target : TypeId) : Option Bool :=
  if !types.isReferenceType source then some false
  else if types.isObject target then some true
  else if types.isInterface target then some (types.implementsInterface source target)
  else if types.derivesFrom source target then some true
  else
    match types.element? source, types.element? target with
    | some sourceElement, some targetElement =>
      if sourceElement == targetElement then some true else none
    | _, _ => some false

section

variable {types : TypeTable} {source target : TypeId}

/-- Only two arrays of different elements are passed over. -/
theorem elements_of_referenceHere?_eq_none (passed : types.referenceHere? source target = none) :
    ∃ sourceElement targetElement, types.element? source = some sourceElement ∧
      types.element? target = some targetElement ∧ sourceElement ≠ targetElement := by
  unfold referenceHere? at passed
  repeat' split at passed
  all_goals try cases passed
  rename_i sourceElement targetElement sourceArray targetArray different
  exact ⟨sourceElement, targetElement, sourceArray, targetArray, by simpa using different⟩

theorem referenceWithin?_succ (depth : Nat) :
    types.referenceWithin? (depth + 1) source target =
      (types.referenceHere? source target).or
        (types.referenceWithin? depth (types.innerType source) (types.innerType target)) := by
  simp only [referenceWithin?, referenceHere?]
  by_cases value : (!types.isReferenceType source) = true
  · rw [if_pos value, if_pos value, Option.some_or]
  rw [if_neg value, if_neg value]
  by_cases object : types.isObject target = true
  · rw [if_pos object, if_pos object, Option.some_or]
  rw [if_neg object, if_neg object]
  by_cases interface : types.isInterface target = true
  · rw [if_pos interface, if_pos interface, Option.some_or]
  rw [if_neg interface, if_neg interface]
  by_cases derived : types.derivesFrom source target = true
  · rw [if_pos derived, if_pos derived, Option.some_or]
  rw [if_neg derived, if_neg derived]
  cases sourceArray : types.element? source with
  | none => rfl
  | some sourceElement =>
    cases targetArray : types.element? target with
    | none => rfl
    | some targetElement =>
      rw [innerType_of_element? sourceArray, innerType_of_element? targetArray]
      by_cases same : sourceElement = targetElement
      · simp [same]
      · simp [same]

theorem referenceWithin?_of_le {depth more : Nat} (le : depth ≤ more) {answer : Bool}
    (decided : types.referenceWithin? depth source target = some answer) :
    types.referenceWithin? more source target = some answer := by
  induction depth generalizing more source target with
  | zero => cases decided
  | succ depth ih =>
    obtain ⟨more, rfl⟩ := Nat.exists_eq_add_one_of_ne_zero (Nat.ne_of_gt (Nat.zero_lt_of_lt le))
    rw [referenceWithin?_succ] at decided ⊢
    cases here : types.referenceHere? source target with
    | some answer => simpa [here] using decided
    | none =>
      rw [here] at decided
      exact ih (Nat.le_of_succ_le_succ le) decided

/-- A depth suffices exactly if fewer steps lead to two types that can be told without their
elements. -/
theorem referenceWithin?_eq_none_iff {depth : Nat} :
    types.referenceWithin? depth source target = none ↔
      ∀ steps < depth, types.referenceHere? (types.innerType^[steps] source)
        (types.innerType^[steps] target) = none := by
  induction depth generalizing source target with
  | zero => simp [referenceWithin?]
  | succ depth ih =>
    rw [referenceWithin?_succ, Nat.forall_lt_succ_left]
    cases here : types.referenceHere? source target with
    | some answer => simp [here]
    | none => simpa [here] using ih

/-- More steps than there are pairs of types lead to one pair twice. -/
theorem exists_pair_twice
    (undecided : types.referenceWithin? (types.size * types.size + 1) source target = none) :
    ∃ early late, early < late ∧ late ≤ types.size * types.size ∧
      types.innerType^[early] source = types.innerType^[late] source ∧
      types.innerType^[early] target = types.innerType^[late] target := by
  rw [referenceWithin?_eq_none_iff] at undecided
  have inside (steps : Fin (types.size * types.size + 1)) :
      (types.innerType^[steps] source).index < types.size ∧
      (types.innerType^[steps] target).index < types.size := by
    obtain ⟨_, _, sourceArray, targetArray, _⟩ :=
      elements_of_referenceHere?_eq_none (undecided steps steps.isLt)
    exact ⟨index_lt_size_of_element? (by simp [sourceArray]),
      index_lt_size_of_element? (by simp [targetArray])⟩
  obtain ⟨first, second, different, same⟩ := Fintype.exists_ne_map_eq_of_card_lt
    (fun steps =>
      ((⟨_, (inside steps).1⟩, ⟨_, (inside steps).2⟩) : Fin types.size × Fin types.size)) (by simp)
  obtain ⟨sourceIndex, targetIndex⟩ := Prod.mk.inj same
  have sourceTwice : types.innerType^[first] source = types.innerType^[second] source :=
    congrArg TypeId.mk (Fin.mk.inj sourceIndex)
  have targetTwice : types.innerType^[first] target = types.innerType^[second] target :=
    congrArg TypeId.mk (Fin.mk.inj targetIndex)
  rcases Nat.lt_or_gt_of_ne (Fin.val_ne_of_ne different) with before | after
  · exact ⟨first, second, before, Nat.le_of_lt_succ second.isLt, sourceTwice, targetTwice⟩
  · exact ⟨second, first, after, Nat.le_of_lt_succ first.isLt, sourceTwice.symm, targetTwice.symm⟩

/-- What as many comparisons as there are pairs of types do not decide is not decided at any
depth. -/
theorem referenceWithin?_of_undecided
    (undecided : types.referenceWithin? (types.size * types.size + 1) source target =
      none) (depth : Nat) :
    types.referenceWithin? depth source target = none := by
  obtain ⟨early, late, before, bound, sourceTwice, targetTwice⟩ := exists_pair_twice undecided
  rw [referenceWithin?_eq_none_iff] at undecided ⊢
  intro steps _
  induction steps using Nat.strong_induction_on with
  | _ steps earlier =>
    by_cases short : steps < types.size * types.size + 1
    · exact undecided steps short
    · -- A round less leads to the same two types.
      have round (id : TypeId) (twice : types.innerType^[early] id = types.innerType^[late] id) :
          types.innerType^[steps] id = types.innerType^[steps - late + early] id := by
        rw [Function.iterate_add_apply, twice, ← Function.iterate_add_apply,
          Nat.sub_add_cancel (by omega)]
      rw [round source sourceTwice, round target targetTwice]
      exact earlier (steps - late + early) (by omega) (by omega)

/-- Whatever a comparison comes to at any depth is the answer of the classifier. -/
theorem isImplicitReference_of_decided {depth : Nat} {answer : Bool}
    (decided : types.referenceWithin? depth source target = some answer) :
    types.isImplicitReference source target = answer := by
  cases found : types.referenceWithin? (types.size * types.size + 1) source target with
  | none =>
    rw [referenceWithin?_of_undecided found] at decided
    cases decided
  | some other =>
    have high :=
      referenceWithin?_of_le (Nat.le_max_left depth (types.size * types.size + 1)) decided
    rw [referenceWithin?_of_le (Nat.le_max_right depth _) found] at high
    rw [isImplicitReference, found]
    exact Option.some.inj high

end

/-- How far a parameter of an operator is from a type; nothing if `depth` does not suffice, as in
all that follows. -/
def parameterWithin? (types : TypeTable) (depth : Nat) (source parameter : TypeId) :
    Option (Option Nat) :=
  if source == parameter then some (some 0)
  else if types.isImplicitNumeric source parameter then some (some 1)
  else do
    if ← types.referenceWithin? depth source parameter then return some 2
    else if types.isValueType source && types.isObject parameter then return some 3
    else return none

def measureWithin? (types : TypeTable) (depth : Nat) (source : TypeId)
    (operator : ConversionOperator) :
    Option (Option (Nat × SymbolId)) := do
  return (← types.parameterWithin? depth source operator.parameter).map (·, operator.symbol)

def operatorWithin? (types : TypeTable) (depth : Nat) (source target : TypeId)
    (implicitOnly : Bool) :
    Option (Option SymbolId) := do
  let fitting := (types.declaredOperators source target).filter fun operator =>
    operator.result == target && (operator.implicit || !implicitOnly)
  let measured ← fitting.mapM (types.measureWithin? depth source)
  return (firstLeast (measured.filterMap id)).map Prod.snd

def implicitWithin? (types : TypeTable) (depth : Nat) (source target : TypeId) :
    Option Conversion :=
  if source == target then some .identity
  else if (types.get? source).isNone || (types.get? target).isNone then some .noConversion
  else if types.isImplicitNumeric source target then some .implicitNumeric
  else if types.isNull source && (types.isReferenceType target || types.isPointer target) then
    some .implicitReference
  else do
    if ← types.referenceWithin? depth source target then return .implicitReference
    else if types.boxes source target then return .boxing
    else return .ofOperator? (← types.operatorWithin? depth source target true)

def explicitWithin? (types : TypeTable) (depth : Nat) (source target : TypeId) :
    Option Conversion := do
  let implicit ← types.implicitWithin? depth source target
  if implicit.isPossible then return implicit
  else if types.isNumericLike source && types.isNumericLike target then return .implicitNumeric
  else if types.isReferenceType source && types.isReferenceType target &&
      (types.derivesFrom target source || types.isInterface source || types.isInterface target) then
    return .implicitReference
  else if types.isValueType target &&
      (types.isObject source ||
        (types.isInterface source && types.implementsInterface target source)) then
    return .boxing
  else return .ofOperator? (← types.operatorWithin? depth source target false)

section Sound

variable {types : TypeTable} {depth : Nat} {source target : TypeId}

end Sound

section Complete

variable {types : TypeTable} {depth : Nat} {source target : TypeId}

theorem parameterWithin?_eq {parameter : TypeId}
    (decided : types.referenceWithin? depth source parameter =
      some (types.isImplicitReference source parameter)) :
    types.parameterWithin? depth source parameter =
      some (types.parameterDistance? source parameter) := by
  simp only [parameterWithin?, parameterDistance?, decided, apply_ite some]
  rfl

theorem measureWithin?_eq {operator : ConversionOperator}
    (decided : types.referenceWithin? depth source operator.parameter =
      some (types.isImplicitReference source operator.parameter)) :
    types.measureWithin? depth source operator =
      some ((types.parameterDistance? source operator.parameter).map (·, operator.symbol)) := by
  rw [measureWithin?, parameterWithin?_eq decided]
  rfl

variable
  (toTarget : types.referenceWithin? depth source target =
    some (types.isImplicitReference source target))
  (toParameters : ∀ operator ∈ types.declaredOperators source target,
    types.referenceWithin? depth source operator.parameter =
      some (types.isImplicitReference source operator.parameter))

include toParameters

theorem operatorWithin?_eq (implicitOnly : Bool) :
    types.operatorWithin? depth source target implicitOnly =
      some (types.closestOperator? source target implicitOnly) := by
  rw [operatorWithin?, List.mapM_eq_some_map fun operator member =>
    measureWithin?_eq (toParameters operator (List.mem_of_mem_filter member))]
  rw [Option.bind_eq_bind, Option.bind_some, List.filterMap_map]
  rfl

include toTarget

theorem implicitWithin?_eq :
    types.implicitWithin? depth source target = some (types.standardImplicit source target) := by
  simp only [implicitWithin?, standardImplicit, toTarget,
    operatorWithin?_eq toParameters, apply_ite some]
  rfl

theorem explicitWithin?_eq :
    types.explicitWithin? depth source target = some (types.standardExplicit source target) := by
  simp only [explicitWithin?, standardExplicit, implicitWithin?_eq toTarget toParameters,
    operatorWithin?_eq toParameters, apply_ite some]
  rfl

end Complete

end TypeTable

namespace Classifier

variable (classifier : Classifier) (depth : Nat) (query : ConversionQuery)

/-- The implicit conversion that answers a query; nothing if the core rules are asked and `depth`
does not suffice. -/
def implicitWithin? : Option Conversion :=
  match query.expr.filter classifier.exprs.isLambda with
  | some lambda => some (classifier.lambdaConversion lambda query.target)
  | none =>
      if query.source == query.target then some .identity
      else
        match classifier.legacyAnswer? query with
        | some outcome => some outcome.conversion
        | none => classifier.types.implicitWithin? depth query.source query.target

def explicitWithin? : Option Conversion := do
  let implicit ← classifier.implicitWithin? depth query
  if implicit.isPossible then return implicit
  else if classifier.options.legacyRules &&
    classifier.hasBoxing query.source query.target then return .boxing
  else classifier.types.explicitWithin? depth query.source query.target

variable {classifier depth query} (core : classifier.standard = .core)

include core

end Classifier

end DialectBinder
