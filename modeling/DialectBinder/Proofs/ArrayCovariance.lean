import DialectBinder.Proofs.ComparisonDepth

/-! How deep references are compared. Arrays are compared by their element types, over and over if
these are arrays again. That comes to an end if the element types of one of the two end or if the
two meet, and then within as many steps as there are types; otherwise, with two circles of arrays,
no depth suffices, and a classification that needs the answer has none either. -/

namespace DialectBinder

namespace TypeTable

section

variable {table : TypeTable} (reachable : table.Reachable) {source target : TypeId}

include reachable

theorem Reachable.exists_array {id element : TypeId} (array : table.element? id = some element) :
    ∃ name, table.get? id = some (.array name element) := by
  obtain ⟨info, found, shape⟩ := element?_eq_some_iff.mp array
  have plain : ∀ info ∈ table.entries, ∀ element, info.shape = .arrayOf element →
      info = .array info.name element := by
    apply reachable.forall_info fun info =>
      ∀ element, info.shape = .arrayOf element → info = .array info.name element
    · intro pointerSize info member element shape
      have checked : (wellKnownTypes pointerSize).toList.all (fun info =>
          info.element?.all fun element => info == .array info.name element) = true := rfl
      have entry := List.all_eq_true.mp checked info (Array.mem_toList_iff.mpr member)
      simpa [TypeInfo.element?_of_shape shape] using entry
    · intro declaration element shape
      cases kind : declaration.shape <;>
        simp [TypeDeclaration.toInfo, DeclaredShape.toShape, kind] at shape
    · intro name pointee size element shape
      cases shape
    · intro name element other shape
      cases shape
      rfl
  exact ⟨info.name,
    found.trans (congrArg some (plain info (Array.mem_of_getElem? found) element shape))⟩

theorem Reachable.get?_object :
    table.get? .object =
      some { name := "OBJECT", shape := .classType, primitive := some .object } :=
  reachable.keepsWellKnown.wellKnown .object rfl

theorem Reachable.derivesFrom_of_array {element : TypeId}
    (array : table.element? source = some element) :
    table.derivesFrom source target = (source == target || TypeId.object == target) := by
  obtain ⟨name, found⟩ := reachable.exists_array array
  have within (links : Nat) : table.derivesWithin target (links + 2) source =
      (source == target || TypeId.object == target) := by
    simp [derivesWithin, found, reachable.get?_object, TypeInfo.array]
  exact within 126

/-- The element types are compared exactly for two arrays of different elements. -/
theorem Reachable.referenceHere?_eq_none_iff :
    table.referenceHere? source target = none ↔
      ∃ sourceElement targetElement, table.element? source = some sourceElement ∧
        table.element? target = some targetElement ∧ sourceElement ≠ targetElement := by
  constructor
  · exact elements_of_referenceHere?_eq_none
  · rintro ⟨sourceElement, targetElement, sourceArray, targetArray, different⟩
    obtain ⟨sourceName, sourceFound⟩ := reachable.exists_array sourceArray
    obtain ⟨targetName, targetFound⟩ := reachable.exists_array targetArray
    have apart : source ≠ target := by
      intro same
      rw [same, targetArray] at sourceArray
      exact different (Option.some.inj sourceArray).symm
    have noClass : TypeId.object ≠ target := by
      intro same
      rw [← same, reachable.get?_object] at targetFound
      cases targetFound
    have derived : table.derivesFrom source target = false := by
      rw [reachable.derivesFrom_of_array sourceArray]
      simp [apart, noClass]
    simp [referenceHere?, isReferenceType, isObject, isInterface, shape?, primitive?,
      sourceFound, targetFound,
      TypeInfo.array, TypeShape.isReferenceType, derived, sourceArray, targetArray, different]

end

/-- The element types of two arrays lead to one type after the same number of steps. -/
def ElementsMeet (table : TypeTable) (source target : TypeId) : Prop :=
  ∃ steps, table.innerType^[steps] source = table.innerType^[steps] target

/-- Comparing two types down to their element types comes to an end. -/
def ComparisonEnds (table : TypeTable) (source target : TypeId) : Prop :=
  table.ElementsEnd source ∨ table.ElementsEnd target ∨ table.ElementsMeet source target

section

variable {table : TypeTable} {source target : TypeId}

/-- Two arrays that are their own elements are compared for ever. -/
theorem not_comparisonEnds_of_own_element (sourceOwn : table.element? source = some source)
    (targetOwn : table.element? target = some target) (different : source ≠ target) :
    ¬table.ComparisonEnds source target := by
  have sourceFixed : table.innerType source = source := innerType_of_element? sourceOwn
  have targetFixed : table.innerType target = target := innerType_of_element? targetOwn
  rintro (ends | ends | ⟨steps, same⟩)
  · exact not_elementsEnd_of_isPeriodicPt Nat.one_pos sourceFixed (by simp [sourceOwn]) ends
  · exact not_elementsEnd_of_isPeriodicPt Nat.one_pos targetFixed (by simp [targetOwn]) ends
  · rw [Function.iterate_fixed sourceFixed, Function.iterate_fixed targetFixed] at same
    exact different same

/-- Two circles that meet at all are together as soon as both have been entered. -/
theorem ElementsMeet.within_size (meet : table.ElementsMeet source target)
    (sourceUnending : ¬table.ElementsEnd source) (targetUnending : ¬table.ElementsEnd target) :
    table.innerType^[table.size] source = table.innerType^[table.size] target := by
  obtain ⟨steps, same⟩ := meet
  obtain ⟨_, sourcePositive, sourceCircle⟩ :=
    exists_period (mt elementsEnd_iff_within_size.mpr sourceUnending)
  obtain ⟨_, targetPositive, targetCircle⟩ :=
    exists_period (mt elementsEnd_iff_within_size.mpr targetUnending)
  have later : table.innerType^[steps] (table.innerType^[table.size] source) =
      table.innerType^[steps] (table.innerType^[table.size] target) := by
    rw [← Function.iterate_add_apply, ← Function.iterate_add_apply, Nat.add_comm,
      Function.iterate_add_apply, Function.iterate_add_apply, same]
  clear same
  -- On a circle a step can be taken back.
  induction steps with
  | zero => exact later
  | succ steps ih =>
    rw [Function.iterate_succ_apply', Function.iterate_succ_apply'] at later
    exact ih ((sourceCircle.apply_iterate steps).eq_of_apply_eq
      (targetCircle.apply_iterate steps) sourcePositive
      targetPositive later)

variable (reachable : table.Reachable)

include reachable

/-- A comparison that ends does so within as many steps as there are types. -/
theorem Reachable.decided_within_size (ends : table.ComparisonEnds source target) :
    table.referenceHere? (table.innerType^[table.size] source)
      (table.innerType^[table.size] target) ≠ none := by
  intro passed
  obtain ⟨_, _, sourceArray, targetArray, different⟩ :=
    reachable.referenceHere?_eq_none_iff.mp passed
  have sourceUnending : ¬table.ElementsEnd source := by
    intro ends
    rw [elementsEnd_iff_within_size.mp ends] at sourceArray
    cases sourceArray
  have targetUnending : ¬table.ElementsEnd target := by
    intro ends
    rw [elementsEnd_iff_within_size.mp ends] at targetArray
    cases targetArray
  have meet : table.ElementsMeet source target :=
    (ends.resolve_left sourceUnending).resolve_left targetUnending
  rw [meet.within_size sourceUnending targetUnending, targetArray] at sourceArray
  exact different (Option.some.inj sourceArray).symm

/-- Types that can be told without their elements are met only where the comparison ends. -/
theorem Reachable.comparisonEnds_of_decided {steps : Nat}
    (decided : table.referenceHere? (table.innerType^[steps] source)
      (table.innerType^[steps] target) ≠ none) :
    table.ComparisonEnds source target := by
  have noArrays := mt reachable.referenceHere?_eq_none_iff.mpr decided
  cases sourceArray : table.element? (table.innerType^[steps] source) with
  | none => exact .inl ⟨steps, sourceArray⟩
  | some sourceElement =>
    cases targetArray : table.element? (table.innerType^[steps] target) with
    | none => exact .inr (.inl ⟨steps, targetArray⟩)
    | some targetElement =>
      have same : sourceElement = targetElement := by
        by_contra different
        exact noArrays ⟨sourceElement, targetElement, sourceArray, targetArray, different⟩
      refine .inr (.inr ⟨steps + 1, ?_⟩)
      rw [Function.iterate_succ_apply', Function.iterate_succ_apply',
        innerType_of_element? sourceArray, innerType_of_element? targetArray, same]

/-- Where the comparison ends, that of the classifier is deep enough. -/
theorem Reachable.referenceWithin?_of_ends (ends : table.ComparisonEnds source target) {depth : Nat}
    (deep : table.size < depth) :
    table.referenceWithin? depth source target =
      some (table.isImplicitReference source target) := by
  have decided : table.referenceWithin? depth source target ≠ none := by
    intro undecided
    exact reachable.decided_within_size ends (referenceWithin?_eq_none_iff.mp undecided _ deep)
  obtain ⟨answer, found⟩ := Option.ne_none_iff_exists'.mp decided
  rw [isImplicitReference_of_decided found, found]

theorem Reachable.referenceWithin?_of_unending
    (unending : ¬table.ComparisonEnds source target) (depth : Nat) :
    table.referenceWithin? depth source target = none := by
  rw [referenceWithin?_eq_none_iff]
  intro steps _
  by_contra decided
  exact unending (reachable.comparisonEnds_of_decided decided)

end

/-- All comparisons that a conversion between two types can ask for come to an end: that of the two
types, and that of the source with the parameters of their operators. -/
def ConversionEnds (table : TypeTable) (source target : TypeId) : Prop :=
  table.ComparisonEnds source target ∧
    ∀ operator ∈ table.declaredOperators source target,
      table.ComparisonEnds source operator.parameter

theorem ElementsEnd.conversionEnds {table : TypeTable} {source : TypeId}
    (ends : table.ElementsEnd source) (target : TypeId) : table.ConversionEnds source target :=
  ⟨.inl ends, fun _ _ => .inl ends⟩

theorem Reachable.standardWithin?_of_ends {table : TypeTable} (reachable : table.Reachable)
    {source target : TypeId} (ends : table.ConversionEnds source target) {depth : Nat}
    (deep : table.size < depth) :
    table.implicitWithin? depth source target = some (table.standardImplicit source target) ∧
      table.explicitWithin? depth source target = some (table.standardExplicit source target) := by
  have toTarget := reachable.referenceWithin?_of_ends ends.1 deep
  have toParameters :=
    fun operator member => reachable.referenceWithin?_of_ends (ends.2 operator member) deep
  exact ⟨implicitWithin?_eq toTarget toParameters, explicitWithin?_eq toTarget toParameters⟩

/-- Two arrays ask for nothing before they are compared. -/
theorem Reachable.implicitWithin?_of_unending {table : TypeTable} (reachable : table.Reachable)
    {source target : TypeId} (unending : ¬table.ComparisonEnds source target) (depth : Nat) :
    table.implicitWithin? depth source target = none := by
  have different : source ≠ target := fun same => unending (.inr (.inr ⟨0, same⟩))
  obtain ⟨sourceElement, sourceArray⟩ : ∃ element, table.element? source = some element :=
    Option.ne_none_iff_exists'.mp fun last => unending (.inl ⟨0, last⟩)
  obtain ⟨targetElement, targetArray⟩ : ∃ element, table.element? target = some element :=
    Option.ne_none_iff_exists'.mp fun last => unending (.inr (.inl ⟨0, last⟩))
  obtain ⟨sourceName, sourceFound⟩ := reachable.exists_array sourceArray
  obtain ⟨targetName, targetFound⟩ := reachable.exists_array targetArray
  simp [implicitWithin?, different, sourceFound, targetFound, isImplicitNumeric,
    primitive?, isNull, shape?, TypeInfo.array, reachable.referenceWithin?_of_unending unending]

end TypeTable

namespace Classifier

section

variable {classifier : Classifier} {depth : Nat} {query : ConversionQuery}
    (reachable : classifier.types.Reachable)

include reachable

theorem classified_of_ends (core : classifier.standard = .core)
    (ends : classifier.types.ConversionEnds query.source query.target)
    (deep : classifier.types.size < depth) :
    classifier.implicitWithin? depth query = some (classifier.implicit query) ∧
      classifier.explicitWithin? depth query = some (classifier.explicit query) := by
  obtain ⟨standardImplicitly, standardExplicitly⟩ := reachable.standardWithin?_of_ends ends deep
  have implicitly : classifier.implicitWithin? depth query = some (classifier.implicit query) := by
    unfold implicitWithin?
    cases lambda : query.expr.filter classifier.exprs.isLambda with
    | some expr =>
      have answer : classifier.implicit query = _ := implicit_of_lambda lambda
      rw [answer]
    | none =>
      by_cases same : query.source = query.target
      · have answer : classifier.implicit query = .identity := implicit_of_same lambda same
        simp [answer, same]
      · have answer : classifier.implicit query = _ := implicit_of_different lambda same
        simp only [answer, core, beq_eq_false_iff_ne.mpr same, Bool.false_eq_true, ↓reduceIte]
        cases classifier.legacyAnswer? query with
        | some outcome => rfl
        | none => exact standardImplicitly
  refine ⟨implicitly, ?_⟩
  simp only [explicitWithin?, explicit, implicitly, standardExplicitly, core, apply_ite some]
  rfl

theorem unclassified_of_unending (noLambda : query.expr.filter classifier.exprs.isLambda = none)
    (noLegacy : classifier.legacyAnswer? query = none)
    (unending : ¬classifier.types.ComparisonEnds query.source query.target) :
    classifier.implicitWithin? depth query = none ∧
      classifier.explicitWithin? depth query = none := by
  have different : (query.source == query.target) = false :=
    beq_eq_false_iff_ne.mpr fun same => unending (.inr (.inr ⟨0, same⟩))
  have implicitly : classifier.implicitWithin? depth query = none := by
    simp only [implicitWithin?, noLambda, different, noLegacy, Bool.false_eq_true, ↓reduceIte]
    exact reachable.implicitWithin?_of_unending unending depth
  refine ⟨implicitly, ?_⟩
  rw [explicitWithin?, implicitly]
  rfl

end

/-- Classification over a table of registered types. Element types go on for ever exactly along a
circle, which needs an array that came no later than its element; where arrays are made of types
that are there, there is none, and all ends. Comparing two types ends exactly if the element types
of one end or the two meet, then within as many steps as there are types and with the answer of the
classifier. A classification ends if its comparisons do; if the one of its two types does not and no
earlier rule decides, it does not end at any depth. -/
theorem classification_ends_unless_circular {classifier : Classifier}
    (reachable : classifier.types.Reachable) (core : classifier.standard = .core) :
    (∀ id, ¬classifier.types.ElementsEnd id ↔
      ∃ steps element, classifier.types.element?
        (classifier.types.innerType^[steps] id) = some element ∧
        (classifier.types.innerType^[steps] id).index ≤ element.index ∧
        ∃ period > 0, classifier.types.innerType^[period] (classifier.types.innerType^[steps] id) =
          classifier.types.innerType^[steps] id) ∧
    (classifier.types.ReachableInOrder →
      ∀ source target, classifier.types.ElementsEnd source ∧
        classifier.types.ConversionEnds source target) ∧
    (∀ source target, classifier.types.ComparisonEnds source target →
      ∀ depth > classifier.types.size,
      classifier.types.referenceWithin? depth source target =
        some (classifier.types.isImplicitReference source target)) ∧
    (∀ source target, ¬classifier.types.ComparisonEnds source target → ∀ depth,
      classifier.types.referenceWithin? depth source target = none) ∧
    (∀ query, classifier.types.ConversionEnds query.source query.target →
      ∀ depth > classifier.types.size,
      classifier.implicitWithin? depth query = some (classifier.implicit query) ∧
        classifier.explicitWithin? depth query = some (classifier.explicit query)) ∧
    ∀ query : ConversionQuery, query.expr.filter classifier.exprs.isLambda = none →
      classifier.legacyAnswer? query = none →
        ¬classifier.types.ComparisonEnds query.source query.target → ∀ depth,
      classifier.implicitWithin? depth query = none ∧
        classifier.explicitWithin? depth query = none := by
  refine ⟨fun _ => TypeTable.not_elementsEnd_iff, ?_, ?_, ?_, ?_, ?_⟩
  · intro inOrder source target
    have ends := inOrder.elementsEnd source
    exact ⟨ends, ends.conversionEnds target⟩
  · intro source target ends depth deep
    exact reachable.referenceWithin?_of_ends ends deep
  · intro source target unending depth
    exact reachable.referenceWithin?_of_unending unending depth
  · intro query ends depth deep
    exact classified_of_ends reachable core ends deep
  · intro query noLambda noLegacy unending depth
    exact unclassified_of_unending reachable noLambda noLegacy unending

/-- The core language over arrays of the given types, registered one after the other. -/
def withArrays (elements : List TypeId) : Classifier where
  types := elements.foldl (fun table element => (table.arrayOf element).1) (.ofPointerSize 8)
  exprs := ⟨#[]⟩
  options := .forDialect .core

/-- Arrays of arrays of strings and of objects; the arrays of objects are there from the start. -/
def stringRows : Classifier := withArrays [.string, ⟨33⟩, ⟨30⟩]

theorem stringRows_are_objectRows :
    stringRows.types.Reachable ∧ stringRows.types.ReachableInOrder ∧ stringRows.types.size < 37 ∧
      stringRows.implicitWithin? 37 ⟨none, ⟨34⟩, ⟨35⟩⟩ = some .implicitReference := by
  have reachable : stringRows.types.Reachable :=
    .step (.step (.step (.start 8) (.arrayOf .string)) (.arrayOf ⟨33⟩)) (.arrayOf ⟨30⟩)
  have inOrder : stringRows.types.ReachableInOrder :=
    .step (.step (.step (.start 8) (.arrayOf .string (by decide +kernel)))
      (.arrayOf ⟨33⟩ (by decide +kernel)))
      (.arrayOf ⟨30⟩ (by decide +kernel))
  have deep : stringRows.types.size < 37 := by decide +kernel
  have converts : stringRows.implicit ⟨none, ⟨34⟩, ⟨35⟩⟩ = .implicitReference := by decide +kernel
  obtain ⟨_, ordered, _, _, classified, _⟩ := classification_ends_unless_circular reachable rfl
  refine ⟨reachable, inOrder, deep, ?_⟩
  rw [(classified _ (ordered inOrder _ _).2 37 deep).1, converts]

/-- Two arrays of types that are not there yet. -/
def ownElements : Classifier := withArrays [⟨33⟩, ⟨34⟩]

theorem ownElements_reachable : ownElements.types.Reachable :=
  .step (.step (.start 8) (.arrayOf ⟨33⟩)) (.arrayOf ⟨34⟩)

theorem ownElements_unending : ¬ownElements.types.ComparisonEnds ⟨33⟩ ⟨34⟩ :=
  TypeTable.not_comparisonEnds_of_own_element (by decide +kernel) (by decide +kernel) (by decide)

/-- Arrays that are made before their elements can be their own elements. Two such are not compared
to the end at any depth. -/
theorem ownElements_never_compared :
    ownElements.types.Reachable ∧ ¬ownElements.types.ElementsEnd ⟨33⟩ ∧
      ∀ depth, ownElements.types.referenceWithin? depth ⟨33⟩ ⟨34⟩ = none ∧
        ownElements.implicitWithin? depth ⟨none, ⟨33⟩, ⟨34⟩⟩ = none ∧
        ownElements.explicitWithin? depth ⟨none, ⟨33⟩, ⟨34⟩⟩ = none := by
  refine ⟨ownElements_reachable, fun ends => ownElements_unending (.inl ends), ?_⟩
  intro depth
  exact ⟨ownElements_reachable.referenceWithin?_of_unending ownElements_unending depth,
    unclassified_of_unending ownElements_reachable rfl rfl ownElements_unending⟩

end Classifier

end DialectBinder
