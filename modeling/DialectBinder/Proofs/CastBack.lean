import DialectBinder.Proofs.OperatorChoice
import DialectBinder.Proofs.References

/-! Casting back what was converted. The casts of the core language undo its conversions of numbers,
references and boxed values, with two exceptions: arrays that converted by their elements, and types
with a base that is no reference type. -/

namespace DialectBinder

theorem Primitive.numeric_of_widensTo {narrow wide : Primitive}
    (widens : narrow.widensTo wide = true) :
    (narrow = .char ∨ narrow.isNumeric = true) ∧ wide.isNumeric = true := by
  revert widens
  cases narrow <;> cases wide <;> decide

namespace TypeTable

/-- All classes, delegates and arrays derive from the type of objects. -/
def RootedInObject (table : TypeTable) : Prop :=
  ∀ id, table.isClass id = true ∨ table.isDelegate id = true ∨ table.isArray id = true →
    table.derivesFrom id .object = true

/-- Whether the type at a place derives from that of objects, if it is a class, a delegate or an
array. -/
def isRootedAt (table : TypeTable) (id : TypeId) : Bool :=
  !(table.isClass id || table.isDelegate id || table.isArray id) || table.derivesFrom id .object

section Rooted

variable {table : TypeTable}

theorem isRootedAt_iff {id : TypeId} :
    table.isRootedAt id = true ↔
      (table.isClass id = true ∨ table.isDelegate id = true ∨ table.isArray id = true →
        table.derivesFrom id .object = true) := by
  simp only [isRootedAt, Bool.or_eq_true, Bool.not_eq_true', ← Bool.not_eq_true, or_assoc]
  exact imp_iff_not_or.symm

/-- What is no type of the table is neither a class nor a delegate nor an array. -/
theorem isRootedAt_of_unknown {id : TypeId} (unknown : table.get? id = none) :
    table.isRootedAt id = true := by
  simp [isRootedAt, isClass, isDelegate, delegateParameters?, isArray, element?, shape?, unknown]

theorem rootedInObject_iff :
    table.RootedInObject ↔ ∀ index < table.size, table.isRootedAt ⟨index⟩ = true := by
  constructor
  · intro rooted index _
    exact isRootedAt_iff.mpr (rooted ⟨index⟩)
  · intro checked id
    apply isRootedAt_iff.mp
    cases found : table.get? id with
    | none => exact isRootedAt_of_unknown found
    | some info => exact checked id.index (index_lt_size_of_isSome (by rw [found]; rfl))

instance : Decidable table.RootedInObject := decidable_of_iff _ rootedInObject_iff.symm

end Rooted

/-- Two arrays, the target of which does not convert to the source. -/
structure OneWayArrays (table : TypeTable) (source target : TypeId) : Prop where
  source_array : table.isArray source = true
  target_array : table.isArray target = true
  no_return : table.isImplicitReference target source = false

/-- A reference type with a base that is none, and no other way back from that base: it is not the
type of `NULL`, does not box into the type, and no operator takes it there. -/
structure StrayBase (table : TypeTable) (source target : TypeId) : Prop where
  reference : table.isReferenceType source = true
  derives : table.derivesFrom source target = true
  stray : table.isReferenceType target = false
  no_null : table.isNull target = false
  no_boxing : table.boxes target source = false
  no_operator : table.closestOperator? target source false = none

section Casts

variable {table : TypeTable} {source target : TypeId}

/-- What the core language converts itself, it converts between different types and for one of three
reasons. -/
theorem reasons_of_builtIn (ofNull : table.isNull source = false)
    (converts : table.standardImplicit source target = .implicitNumeric ∨
      table.standardImplicit source target = .implicitReference ∨
        table.standardImplicit source target = .boxing) :
    source ≠ target ∧ (table.isImplicitNumeric source target = true ∨
      table.isImplicitReference source target = true ∨
      table.boxes source target = true) := by
  have different : source ≠ target := by
    intro same
    simp [standardImplicit, same] at converts
  have sourceKnown : (table.get? source).isSome = true := by
    cases found : table.get? source with
    | some info => rfl
    | none => simp [standardImplicit, different, found] at converts
  have targetKnown : (table.get? target).isSome = true := by
    cases found : table.get? target with
    | some info => rfl
    | none => simp [standardImplicit, different, found] at converts
  refine ⟨different, ?_⟩
  by_contra none
  simp only [not_or, Bool.not_eq_true] at none
  have lacks : table.LacksBuiltIn source target := ⟨none.1, by rw [ofNull]; rfl, none.2.1, none.2.2⟩
  rw [lacks.standardImplicit_eq different sourceKnown targetKnown] at converts
  cases operator : table.closestOperator? source target true <;>
    simp [operator, Conversion.ofOperator?] at converts

theorem isNumericLike_of_isImplicitNumeric (widens : table.isImplicitNumeric source target = true) :
    table.isNumericLike source = true ∧ table.isNumericLike target = true := by
  unfold isImplicitNumeric at widens
  split at widens
  · rename_i narrow wide narrowTag wideTag
    obtain ⟨ofNarrow, ofWide⟩ := Primitive.numeric_of_widensTo widens
    refine ⟨?_, by simp [isNumericLike, isNumeric, wideTag, ofWide]⟩
    rcases ofNarrow with rfl | ofNarrow
    · simp [isNumericLike, isChar, narrowTag]
    · simp [isNumericLike, isNumeric, narrowTag, ofNarrow]
  · cases widens

theorem isReferenceType_of_isInterface (abstract : table.isInterface source = true) :
    table.isReferenceType source = true := by
  simp [isReferenceType, beq_iff_eq.mp abstract, TypeShape.isReferenceType]

theorem not_lacksCast_of_number (widens : table.isImplicitNumeric source target = true) :
    ¬table.LacksCast target source := by
  intro lacks
  obtain ⟨ofSource, ofTarget⟩ := isNumericLike_of_isImplicitNumeric widens
  have number := lacks.number
  simp [ofSource, ofTarget] at number

theorem not_lacksCast_of_boxes (boxes : table.boxes source target = true) :
    ¬table.LacksCast target source := by
  intro lacks
  have unboxing := lacks.unboxing
  rw [TypeTable.boxes] at boxes
  rw [boxes] at unboxing
  cases unboxing

/-- References are cast back to interfaces, from interfaces and to derived types. -/
theorem not_lacksCast_of_references (ofSource : table.isReferenceType source = true)
    (ofTarget : table.isReferenceType target = true)
    (related : table.derivesFrom source target = true ∨ table.isInterface target = true ∨
      table.isInterface source = true) :
    ¬table.LacksCast target source := by
  intro lacks
  have reference := lacks.reference
  rcases related with derives | abstract | abstract
  · simp [ofSource, ofTarget, derives] at reference
  · simp [ofSource, ofTarget, abstract] at reference
  · simp [ofSource, ofTarget, abstract] at reference

theorem isReferenceType_of_exception
    (exception : table.OneWayArrays source target ∨ table.StrayBase source target) :
    table.isReferenceType source = true := by
  rcases exception with arrays | stray
  · obtain ⟨element, array⟩ := Option.isSome_iff_exists.mp arrays.source_array
    exact isReferenceType_of_element? array
  · exact stray.reference

end Casts

section Registered

variable {table : TypeTable} (reachable : table.Reachable) {source target : TypeId}

include reachable

theorem Reachable.isNumericLike_of_isReferenceType
    (reference : table.isReferenceType source = true) :
    table.isNumericLike source = false := by
  have noEnum : table.isEnum source = false := by
    rw [isReferenceType, Option.any_eq_true] at reference
    obtain ⟨shape, known, holds⟩ := reference
    cases shape <;> simp_all [isEnum, underlying?, TypeShape.isReferenceType]
  cases tag : table.primitive? source with
  | none => simp [isNumericLike, noEnum, isChar, isNumeric, tag]
  | some primitive =>
    have noNumber : primitive ≠ .char ∧ primitive.isNumeric = false := by
      rcases reachable.primitive?_of_isReferenceType reference tag with rfl | rfl <;> decide
    simp [isNumericLike, noEnum, isChar, isNumeric, tag, noNumber]

theorem Reachable.closestOperator?_of_arrays {sourceElement targetElement : TypeId}
    (sourceArray : table.element? source = some sourceElement)
    (targetArray : table.element? target = some targetElement) (implicitOnly : Bool) :
    table.closestOperator? source target implicitOnly = none := by
  obtain ⟨_, sourceFound⟩ := reachable.exists_array sourceArray
  obtain ⟨_, targetFound⟩ := reachable.exists_array targetArray
  rw [closestOperator?_eq_none_iff, declaredOperators_eq sourceFound targetFound]
  intro operator declared
  cases declared

theorem Reachable.lacksCast_of_arrays {sourceElement targetElement : TypeId}
    (different : source ≠ target) (sourceArray : table.element? source = some sourceElement)
    (targetArray : table.element? target = some targetElement) :
    table.LacksCast source target where
  number := by
    rw [reachable.isNumericLike_of_isReferenceType (isReferenceType_of_element? sourceArray),
      Bool.false_and]
  reference := by
    have noObject : TypeId.object ≠ source := by
      intro same
      have root := reachable.isObject_of_element? sourceArray
      rw [← same, reachable.isObject_object] at root
      cases root
    simp [reachable.derivesFrom_of_array targetArray, isInterface_of_element? sourceArray,
      isInterface_of_element? targetArray, different.symm, noObject]
  unboxing := by
    rw [isValueType_of_isReferenceType (isReferenceType_of_element? targetArray), Bool.false_and]

theorem Reachable.lacksBuiltIn_of_arrays {sourceElement : TypeId}
    (sourceArray : table.element? source = some sourceElement)
    (fails : table.isImplicitReference source target = false) :
    table.LacksBuiltIn source target where
  number := reachable.isImplicitNumeric_of_source (isReferenceType_of_element? sourceArray) target
  null := by
    rw [isNull_of_isReferenceType (isReferenceType_of_element? sourceArray), Bool.false_and]
  reference := fails
  boxing := by
    rw [boxes, isValueType_of_isReferenceType (isReferenceType_of_element? sourceArray),
      Bool.false_and]

/-- A cast takes one array to another only where a conversion does. -/
theorem Reachable.cast_fails_of_arrays {sourceElement targetElement : TypeId}
    (different : source ≠ target) (sourceArray : table.element? source = some sourceElement)
    (targetArray : table.element? target = some targetElement) :
    table.standardExplicit source target = .noConversion ↔
      table.isImplicitReference source target = false := by
  rw [standardExplicit_eq_noConversion_iff different
    (get?_isSome_of_isReferenceType (isReferenceType_of_element? sourceArray))
    (get?_isSome_of_isReferenceType (isReferenceType_of_element? targetArray))]
  constructor
  · intro ⟨lacks, _⟩
    exact lacks.reference
  · intro fails
    exact ⟨reachable.lacksBuiltIn_of_arrays sourceArray fails,
      reachable.lacksCast_of_arrays different sourceArray targetArray,
      reachable.closestOperator?_of_arrays sourceArray targetArray false⟩

theorem Reachable.not_lacksCast_of_refers (rooted : table.RootedInObject)
    (refers : table.Refers source target) (ofTarget : table.isReferenceType target = true)
    (noArrays : ¬(table.isArray source = true ∧ table.isArray target = true)) :
    ¬table.LacksCast target source := by
  apply not_lacksCast_of_references refers.isReferenceType ofTarget
  cases refers with
  | object reference root =>
    rw [reachable.eq_object_of_isObject root]
    rcases isReferenceType_cases reference with shape | shape | ⟨element, array⟩ | abstract
    · exact .inl (rooted source (.inl shape))
    · exact .inl (rooted source (.inr (.inl shape)))
    · exact .inl (rooted source (.inr (.inr (by simp [isArray, array]))))
    · exact .inr (.inr abstract)
  | interface _ abstract _ => exact .inr (.inl abstract)
  | base _ _ derives => exact .inl derives
  | sameElements sourceArray targetArray =>
    exact absurd (by simp [isArray, sourceArray, targetArray]) noArrays
  | elements sourceArray targetArray _ =>
    exact absurd (by simp [isArray, sourceArray, targetArray]) noArrays

/-- What is no reference type is reached as a base type only. -/
theorem Reachable.reference_or_base_of_refers (refers : table.Refers source target) :
    table.isReferenceType target = true ∨ table.derivesFrom source target = true := by
  cases refers with
  | object _ root =>
    rw [reachable.eq_object_of_isObject root]
    exact .inl reachable.isReferenceType_object
  | interface _ abstract _ => exact .inl (isReferenceType_of_isInterface abstract)
  | base _ _ derives => exact .inr derives
  | sameElements _ targetArray => exact .inl (isReferenceType_of_element? targetArray)
  | elements _ targetArray _ => exact .inl (isReferenceType_of_element? targetArray)

/-- The way back from a base that is no reference type is through `NULL`, a box or an operator. -/
theorem Reachable.cast_fails_of_stray (different : source ≠ target)
    (refers : table.Refers source target) (stray : table.isReferenceType target = false) :
    table.standardExplicit target source = .noConversion ↔ table.StrayBase source target := by
  have reference := refers.isReferenceType
  rw [standardExplicit_eq_noConversion_iff different.symm refers.target_known
    (get?_isSome_of_isReferenceType reference)]
  constructor
  · intro ⟨lacks, _, noOperator⟩
    have derives :=
      (reachable.reference_or_base_of_refers refers).resolve_left (Bool.eq_false_iff.mp stray)
    have noNull := lacks.null
    rw [reference, Bool.true_or, Bool.and_true] at noNull
    exact ⟨reference, derives, stray, noNull, lacks.boxing, noOperator⟩
  · intro base
    have noReference : table.isImplicitReference target source = false := by
      rw [Bool.eq_false_iff]
      intro converts
      rw [(refers_of_isImplicitReference converts).isReferenceType] at stray
      cases stray
    refine ⟨⟨reachable.isImplicitNumeric_of_target reference target, ?_, noReference,
      base.no_boxing⟩, ⟨?_, ?_, ?_⟩,
      base.no_operator⟩
    · rw [base.no_null, Bool.false_and]
    · rw [reachable.isNumericLike_of_isReferenceType reference, Bool.and_false]
    · rw [stray, Bool.false_and, Bool.false_and]
    · rw [isValueType_of_isReferenceType reference, Bool.false_and]

theorem Reachable.cast_fails_of_refers (rooted : table.RootedInObject) (different : source ≠ target)
    (refers : table.Refers source target) :
    table.standardExplicit target source = .noConversion ↔
      table.OneWayArrays source target ∨ table.StrayBase source target := by
  -- All arrays have the type of objects as their base, so the cast to a derived type never takes
  -- one to another.
  by_cases arrays : table.isArray source = true ∧ table.isArray target = true
  · obtain ⟨sourceElement, sourceArray⟩ := Option.isSome_iff_exists.mp arrays.1
    obtain ⟨targetElement, targetArray⟩ := Option.isSome_iff_exists.mp arrays.2
    rw [reachable.cast_fails_of_arrays different.symm targetArray sourceArray]
    constructor
    · intro noReturn
      exact .inl ⟨arrays.1, arrays.2, noReturn⟩
    · intro exception
      rcases exception with oneWay | base
      · exact oneWay.no_return
      · exact absurd (isReferenceType_of_element? targetArray) (Bool.eq_false_iff.mp base.stray)
  · have noOneWay : ¬table.OneWayArrays source target :=
      fun oneWay => arrays ⟨oneWay.source_array, oneWay.target_array⟩
    cases ofTarget : table.isReferenceType target with
    | true =>
      have noStray : ¬table.StrayBase source target :=
        fun base => Bool.eq_false_iff.mp base.stray ofTarget
      refine iff_of_false ?_ (not_or.mpr ⟨noOneWay, noStray⟩)
      intro fails
      exact reachable.not_lacksCast_of_refers rooted refers ofTarget arrays
        (lacksCast_of_noConversion fails).2.1
    | false =>
      rw [reachable.cast_fails_of_stray different refers ofTarget]
      exact ⟨.inr, fun exception => exception.resolve_left noOneWay⟩

/-- Numbers, references and boxed values are cast back to what they were, except for arrays of which
the other does not convert back and for a base that is no reference type and has no way back of its
own. -/
theorem Reachable.cast_back_characterised (rooted : table.RootedInObject)
    (ofNull : table.isNull source = false)
    (converts : table.standardImplicit source target = .implicitNumeric ∨
      table.standardImplicit source target = .implicitReference ∨
        table.standardImplicit source target = .boxing) :
    table.standardExplicit target source = .noConversion ↔
      table.OneWayArrays source target ∨ table.StrayBase source target := by
  obtain ⟨different, reason⟩ := reasons_of_builtIn ofNull converts
  rcases reason with widens | refers | boxes
  · refine iff_of_false (fun fails =>
      not_lacksCast_of_number widens (lacksCast_of_noConversion fails).2.1) ?_
    intro exception
    rw [reachable.isImplicitNumeric_of_source (isReferenceType_of_exception exception)] at widens
    cases widens
  · exact reachable.cast_fails_of_refers rooted different (refers_of_isImplicitReference refers)
  · refine iff_of_false (fun fails =>
      not_lacksCast_of_boxes boxes (lacksCast_of_noConversion fails).2.1) ?_
    intro exception
    rw [TypeTable.boxes,
      isValueType_of_isReferenceType (isReferenceType_of_exception exception)] at boxes
    cases boxes

end Registered

/-- Arrays of strings; the arrays of objects are there from the start. -/
def stringLists : TypeTable := ((ofPointerSize 8).arrayOf .string).1

/-- Arrays of strings are arrays of objects, and no cast makes them arrays of strings again. -/
theorem stringLists_not_cast_back :
    stringLists.Reachable ∧ stringLists.RootedInObject ∧ stringLists.isNull ⟨33⟩ = false ∧
      stringLists.standardImplicit ⟨33⟩ .objectArray = .implicitReference ∧
      stringLists.standardExplicit .objectArray ⟨33⟩ = .noConversion :=
  ⟨.step (.start 8) (.arrayOf .string), by decide +kernel⟩

/-- Arrays of strings, and wallets with money as their base, which is a plain value. -/
def wallets : TypeTable :=
  let money :=
    (stringLists.register { name := "Money", shape := .structType 8, base := some .object }).1
  (money.register { name := "Wallet", shape := .classType, base := some ⟨34⟩ }).1

/-- An object is cast back to the array of strings that it was; money is not cast back to a
wallet. -/
theorem wallets_cast_back :
    wallets.Reachable ∧ wallets.RootedInObject ∧
      (wallets.standardImplicit ⟨33⟩ .object = .implicitReference ∧
        wallets.standardExplicit .object ⟨33⟩ ≠ .noConversion) ∧
      wallets.standardImplicit ⟨35⟩ ⟨34⟩ = .implicitReference ∧
      wallets.standardExplicit ⟨34⟩ ⟨35⟩ = .noConversion := by
  have reachable : wallets.Reachable :=
    .step (.step (.step (.start 8) (.arrayOf .string)) (.register _)) (.register _)
  have evaluated : wallets.RootedInObject ∧
      (wallets.isNull ⟨33⟩ = false ∧ wallets.standardImplicit ⟨33⟩ .object = .implicitReference ∧
        wallets.isArray .object = false ∧ wallets.isReferenceType .object = true) ∧
      wallets.isNull ⟨35⟩ = false ∧ wallets.standardImplicit ⟨35⟩ ⟨34⟩ = .implicitReference ∧
      wallets.isReferenceType ⟨35⟩ = true ∧ wallets.derivesFrom ⟨35⟩ ⟨34⟩ = true ∧
      wallets.isReferenceType ⟨34⟩ = false ∧ wallets.isNull ⟨34⟩ = false ∧
        wallets.boxes ⟨34⟩ ⟨35⟩ = false ∧
      wallets.closestOperator? ⟨34⟩ ⟨35⟩ false = none := by decide +kernel
  obtain ⟨rooted, ⟨notNull, listConverts, noArray, reference⟩, ofNull, walletConverts, ofWallet,
    derives, stray, noNull,
    noBoxing, noOperator⟩ := evaluated
  refine ⟨reachable, rooted, ⟨listConverts, ?_⟩, walletConverts, ?_⟩
  · rw [ne_eq, reachable.cast_back_characterised rooted notNull (.inr (.inl listConverts))]
    intro exception
    rcases exception with arrays | base
    · exact Bool.eq_false_iff.mp noArray arrays.target_array
    · exact Bool.eq_false_iff.mp base.stray reference
  · rw [reachable.cast_back_characterised rooted ofNull (.inr (.inl walletConverts))]
    exact .inr ⟨ofWallet, derives, stray, noNull, noBoxing, noOperator⟩

end TypeTable

end DialectBinder
