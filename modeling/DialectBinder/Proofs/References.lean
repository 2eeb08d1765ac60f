import DialectBinder.Proofs.ArrayCovariance
import DialectBinder.Proofs.HierarchyPaths

/-! The ways in which a reference of one type is one of another, said without a depth. Where arrays
come after their elements these are all the reference conversions there are. -/

namespace DialectBinder

namespace TypeTable

/-- The ways in which a reference of one type is one of another. Every reference is an object, one
of each interface that its type implements and one of each base type; an array is an array of all
that its elements are. -/
inductive Refers (table : TypeTable) : TypeId → TypeId → Prop where
  | object {source target : TypeId} (reference : table.isReferenceType source = true)
      (root : table.isObject target = true) : Refers table source target
  | interface {source target : TypeId} (reference : table.isReferenceType source = true)
      (abstract : table.isInterface target = true)
      (implements : table.implementsInterface source target = true) :
      Refers table source target
  | base {source target : TypeId} (reference : table.isReferenceType source = true)
      (concrete : table.isInterface target = false)
      (derives : table.derivesFrom source target = true) :
      Refers table source target
  | sameElements {source target element : TypeId}
      (sourceArray : table.element? source = some element)
      (targetArray : table.element? target = some element) : Refers table source target
  | elements {source target sourceElement targetElement : TypeId}
      (sourceArray : table.element? source = some sourceElement)
      (targetArray : table.element? target = some targetElement)
      (inner : Refers table sourceElement targetElement) :
      Refers table source target

section

variable {table : TypeTable} {source target : TypeId}

theorem refers_of_referenceHere? (answer : table.referenceHere? source target = some true) :
    table.Refers source target := by
  unfold referenceHere? at answer
  split at answer
  · cases answer
  · rename_i reference
    have reference : table.isReferenceType source = true := by simpa using reference
    split at answer
    · rename_i root
      exact .object reference root
    · split at answer
      · rename_i abstract
        exact .interface reference abstract (Option.some.inj answer)
      · rename_i concrete
        split at answer
        · rename_i derives
          exact .base reference (Bool.eq_false_iff.mpr concrete) derives
        · split at answer
          · rename_i sourceArray targetArray
            split at answer
            · rename_i same
              rw [← beq_iff_eq.mp same] at targetArray
              exact .sameElements sourceArray targetArray
            · cases answer
          · cases answer

/-- Each answer of the comparison, at whatever depth, has one of these reasons. -/
theorem refers_of_referenceWithin? {depth : Nat}
    (answer : table.referenceWithin? depth source target = some true) :
    table.Refers source target := by
  induction depth generalizing source target with
  | zero => cases answer
  | succ depth ih =>
    rw [referenceWithin?_succ] at answer
    cases here : table.referenceHere? source target with
    | some decided =>
      rw [here, Option.some_or] at answer
      rw [answer] at here
      exact refers_of_referenceHere? here
    | none =>
      obtain ⟨_, _, sourceArray, targetArray, _⟩ := elements_of_referenceHere?_eq_none here
      rw [here, Option.none_or, innerType_of_element? sourceArray,
        innerType_of_element? targetArray] at answer
      exact .elements sourceArray targetArray (ih answer)

theorem refers_of_isImplicitReference (answer : table.isImplicitReference source target = true) :
    table.Refers source target := by
  apply refers_of_referenceWithin?
  exact (Option.getD_eq_iff.mp answer).resolve_right fun undecided => Bool.noConfusion undecided.2

theorem isReferenceType_of_element? {element : TypeId}
    (array : table.element? source = some element) :
    table.isReferenceType source = true := by
  obtain ⟨info, found, shape⟩ := element?_eq_some_iff.mp array
  simp [isReferenceType, shape?, found, shape, TypeShape.isReferenceType]

theorem isInterface_of_element? {element : TypeId} (array : table.element? source = some element) :
    table.isInterface source = false := by
  obtain ⟨info, found, shape⟩ := element?_eq_some_iff.mp array
  simp [isInterface, shape?, found, shape]

theorem isReferenceType_cases (reference : table.isReferenceType source = true) :
    table.isClass source = true ∨ table.isDelegate source = true ∨
      (∃ element, table.element? source = some element) ∨
      table.isInterface source = true := by
  rw [isReferenceType, Option.any_eq_true] at reference
  obtain ⟨shape, known, holds⟩ := reference
  cases shape <;>
    simp_all [TypeShape.isReferenceType, isClass, isDelegate, delegateParameters?,
      element?, isInterface]

theorem Refers.isReferenceType (refers : table.Refers source target) :
    table.isReferenceType source = true := by
  cases refers with
  | object reference _ => exact reference
  | interface reference _ _ => exact reference
  | base reference _ _ => exact reference
  | sameElements sourceArray _ => exact isReferenceType_of_element? sourceArray
  | elements sourceArray _ _ => exact isReferenceType_of_element? sourceArray

theorem get?_isSome_of_shape? {shape : TypeShape} (known : table.shape? source = some shape) :
    (table.get? source).isSome = true := by
  rw [shape?, Option.map_eq_some_iff] at known
  obtain ⟨info, found, _⟩ := known
  rw [found]
  rfl

theorem get?_isSome_of_isReferenceType (reference : table.isReferenceType source = true) :
    (table.get? source).isSome = true := by
  rw [isReferenceType, Option.any_eq_true] at reference
  obtain ⟨shape, known, _⟩ := reference
  exact get?_isSome_of_shape? known

theorem Refers.target_known (refers : table.Refers source target) :
    (table.get? target).isSome = true := by
  cases refers with
  | object _ root =>
    rw [isObject, beq_iff_eq, primitive?, Option.bind_eq_some_iff] at root
    obtain ⟨info, found, _⟩ := root
    rw [found]
    rfl
  | interface _ abstract _ => exact get?_isSome_of_shape? (beq_iff_eq.mp abstract)
  | base _ _ derives => exact (derivesWithin_iff.mp derives).1
  | sameElements _ targetArray =>
    exact get?_isSome_of_isReferenceType (isReferenceType_of_element? targetArray)
  | elements _ targetArray _ =>
    exact get?_isSome_of_isReferenceType (isReferenceType_of_element? targetArray)

theorem isNull_of_isReferenceType (reference : table.isReferenceType source = true) :
    table.isNull source = false := by
  rw [isReferenceType, Option.any_eq_true] at reference
  obtain ⟨shape, known, holds⟩ := reference
  rw [isNull, known]
  cases shape <;> simp_all [TypeShape.isReferenceType]

theorem isValueType_of_isReferenceType (reference : table.isReferenceType source = true) :
    table.isValueType source = false := by
  rw [isReferenceType, Option.any_eq_true] at reference
  obtain ⟨shape, known, holds⟩ := reference
  rw [isValueType, known, Option.any_some]
  cases shape <;> simp_all [TypeShape.isReferenceType, TypeShape.isValueType]

end

section

variable {table : TypeTable} (reachable : table.Reachable) {source target : TypeId}

include reachable

theorem Reachable.eq_object_of_isObject (root : table.isObject source = true) :
    source = .object := by
  have keeps := reachable.keepsWellKnown
  rw [isObject, beq_iff_eq, primitive?, Option.bind_eq_some_iff] at root
  obtain ⟨info, found, tag⟩ := root
  cases known : source.isWellKnown with
  | true =>
    have checked : (ofPointerSize table.pointerSize).entries.toList.zipIdx.all (fun entry =>
        entry.1.primitive != some .object || entry.2 == 1) = true := rfl
    have entry := holds_of_checked checked ((keeps.wellKnown source known).symm.trans found)
    exact congrArg TypeId.mk (by simpa [tag] using entry)
  | false =>
    rw [(keeps.added source info known found).primitive] at tag
    cases tag

theorem Reachable.isObject_object : table.isObject .object = true := by
  simp [isObject, primitive?, reachable.get?_object]

theorem Reachable.isReferenceType_object : table.isReferenceType .object = true := by
  simp [isReferenceType, shape?, reachable.get?_object, TypeShape.isReferenceType]

theorem Reachable.isObject_of_element? {element : TypeId}
    (array : table.element? source = some element) :
    table.isObject source = false := by
  obtain ⟨name, found⟩ := reachable.exists_array array
  simp [isObject, primitive?, found, TypeInfo.array]

theorem Reachable.primitive?_of_isReferenceType (reference : table.isReferenceType source = true)
    {primitive : Primitive} (tag : table.primitive? source = some primitive) :
    primitive = .object ∨ primitive = .string := by
  have plain : ∀ info ∈ table.entries, info.shape.isReferenceType = true →
      ∀ primitive ∈ info.primitive,
      primitive = .object ∨ primitive = .string := by
    apply reachable.forall_info fun info => info.shape.isReferenceType = true →
      ∀ primitive ∈ info.primitive,
      primitive = .object ∨ primitive = .string
    · intro pointerSize info member reference primitive tag
      have checked : (wellKnownTypes pointerSize).toList.all (fun info =>
          !info.shape.isReferenceType ||
          info.primitive.all fun primitive =>
            primitive == .object || primitive == .string) = true := rfl
      have entry := List.all_eq_true.mp checked info (Array.mem_toList_iff.mpr member)
      simpa [reference, Option.mem_def.mp tag] using entry
    · intro declaration _ primitive tag
      cases tag
    · intro name pointee size _ primitive tag
      cases tag
    · intro name element _ primitive tag
      cases tag
  rw [primitive?, Option.bind_eq_some_iff] at tag
  obtain ⟨info, found, tag⟩ := tag
  refine plain info (Array.mem_of_getElem? found) ?_ primitive tag
  simpa [isReferenceType, shape?, found] using reference

theorem Reachable.isImplicitNumeric_of_source (reference : table.isReferenceType source = true)
    (target : TypeId) :
    table.isImplicitNumeric source target = false := by
  unfold isImplicitNumeric
  cases tag : table.primitive? source with
  | none => rfl
  | some narrow =>
    cases table.primitive? target with
    | none => rfl
    | some wide =>
      rcases reachable.primitive?_of_isReferenceType reference tag with rfl | rfl <;> rfl

theorem Reachable.isImplicitNumeric_of_target (reference : table.isReferenceType target = true)
    (source : TypeId) :
    table.isImplicitNumeric source target = false := by
  unfold isImplicitNumeric
  cases table.primitive? source with
  | none => rfl
  | some narrow =>
    cases tag : table.primitive? target with
    | none => rfl
    | some wide => rcases reachable.primitive?_of_isReferenceType reference tag with rfl | rfl <;>
        cases narrow <;> rfl

/-- Of two arrays only the question for base types comes before that for their elements. -/
theorem Reachable.referenceHere?_of_arrays {sourceElement targetElement : TypeId}
    (sourceArray : table.element? source = some sourceElement)
    (targetArray : table.element? target = some targetElement) :
    table.referenceHere? source target =
      if table.derivesFrom source target || sourceElement == targetElement then some true
      else none := by
  simp only [referenceHere?, isReferenceType_of_element? sourceArray,
    reachable.isObject_of_element? targetArray,
    isInterface_of_element? targetArray, sourceArray, targetArray]
  cases table.derivesFrom source target <;> rfl

theorem Reachable.isImplicitReference_eq (ends : table.ElementsEnd source) :
    table.isImplicitReference source target =
      (table.referenceHere? source target).getD
        (table.isImplicitReference (table.innerType source) (table.innerType target)) := by
  have endsInside : table.ElementsEnd (table.innerType source) :=
    (elementsEnd_iterate_iff 1).mpr ends
  have decided : table.referenceWithin? (table.size + 2) source target = _ :=
    reachable.referenceWithin?_of_ends (.inl ends) (Nat.lt_add_of_pos_right Nat.two_pos)
  have decidedInside : table.referenceWithin? (table.size + 1) (table.innerType source)
      (table.innerType target) = _ :=
    reachable.referenceWithin?_of_ends (.inl endsInside) (Nat.lt_succ_self table.size)
  rw [referenceWithin?_succ, decidedInside] at decided
  cases here : table.referenceHere? source target with
  | some answer =>
    rw [here] at decided
    exact (Option.some.inj decided).symm
  | none =>
    rw [here] at decided
    exact (Option.some.inj decided).symm

/-- Where arrays come after their elements, the conversions of references are those that have a
reason. -/
theorem Reachable.isImplicitReference_iff (inOrder : table.ArraysInOrder) :
    table.isImplicitReference source target = true ↔ table.Refers source target := by
  constructor
  · exact refers_of_isImplicitReference
  · intro refers
    have ends (id : TypeId) : table.ElementsEnd id :=
      elementsEnd_of_decreasing id fun _ _ array => inOrder _ _ array
    induction refers with
    | object reference root => simp [isImplicitReference, referenceWithin?, reference, root]
    | interface reference abstract implements =>
      simp [isImplicitReference, referenceWithin?, reference, abstract, implements]
    | base reference concrete derives =>
      simp [isImplicitReference, referenceWithin?, reference, concrete, derives]
    | sameElements sourceArray targetArray =>
      rw [reachable.isImplicitReference_eq (ends _),
        reachable.referenceHere?_of_arrays sourceArray targetArray]
      simp
    | elements sourceArray targetArray _ inner =>
      rw [reachable.isImplicitReference_eq (ends _),
        reachable.referenceHere?_of_arrays sourceArray targetArray,
        innerType_of_element? sourceArray, innerType_of_element? targetArray, inner]
      split <;> rfl

/-- What the core language makes of a reference: the same one, a reference of another type, or what
an operator gives. -/
theorem Reachable.standardImplicit_of_reference (reference : table.isReferenceType source = true) :
    table.standardImplicit source target =
      if source == target then .identity
      else if (table.get? target).isNone then .noConversion
      else if table.isImplicitReference source target then .implicitReference
      else .ofOperator? (table.closestOperator? source target true) := by
  have known : (table.get? source).isNone = false := by
    rw [Option.isNone_eq_false_iff]
    exact get?_isSome_of_isReferenceType reference
  simp [standardImplicit, boxes, known, reachable.isImplicitNumeric_of_source reference,
    isNull_of_isReferenceType reference, isValueType_of_isReferenceType reference]

/-- A reference stays what it is or becomes a reference of another type where there is a reason for
it. -/
theorem Reachable.convertsReference_iff (inOrder : table.ArraysInOrder)
    (reference : table.isReferenceType source = true) :
    table.standardImplicit source target = .identity ∨
      table.standardImplicit source target = .implicitReference ↔
      source = target ∨ table.Refers source target := by
  rw [reachable.standardImplicit_of_reference reference,
    ← reachable.isImplicitReference_iff inOrder]
  by_cases same : source = target
  · simp [same]
  by_cases refers : table.isImplicitReference source target = true
  · have known := ((reachable.isImplicitReference_iff inOrder).mp refers).target_known
    simp [same, refers, Option.isSome_iff_ne_none.mp known]
  · cases table.get? target with
    | none => simp [same, refers]
    | some info =>
      cases table.closestOperator? source target true <;>
        simp [same, refers, Conversion.ofOperator?]

end

end TypeTable

end DialectBinder
