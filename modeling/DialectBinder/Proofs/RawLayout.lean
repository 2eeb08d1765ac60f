import DialectBinder.Proofs.OperatorChoice
import DialectBinder.Proofs.References
import DialectBinder.Proofs.RuleCascade

/-! Native integers and values that are plain blocks of bytes. The legacy dialects take the one for
the other where the block is a structure. An enumeration can be declared as such a block too, and is
left to its operators. -/

namespace DialectBinder

namespace TypeTable

variable {table : TypeTable}

theorem other_shapes_of_isValueType {id : TypeId} (value : table.isValueType id = true) :
    table.isReferenceType id = false ∧ table.isNull id = false ∧ table.isInterface id = false := by
  rw [isValueType, Option.any_eq_true] at value
  obtain ⟨shape, known, holds⟩ := value
  simp only [isReferenceType, isNull, isInterface, known, Option.any_some]
  cases shape <;> simp_all [TypeShape.isReferenceType, TypeShape.isValueType]

section Registered

variable (reachable : table.Reachable)

include reachable

theorem Reachable.exists_native {native : TypeId}
    (isNative : native = .intPtr ∨ native = .uintPtr) :
    ∃ name primitive, table.get? native = some (.ofPrimitive name primitive table.pointerSize) ∧
      primitive.isNativeInteger = true := by
  rcases isNative with rfl | rfl
  · exact ⟨"IntPtr", .intPtr, reachable.keepsWellKnown.wellKnown .intPtr rfl, rfl⟩
  · exact ⟨"UIntPtr", .uintPtr, reachable.keepsWellKnown.wellKnown .uintPtr rfl, rfl⟩

theorem Reachable.category_native {native : TypeId}
    (isNative : native = .intPtr ∨ native = .uintPtr) :
    ∃ signed, table.category native = .nativeInteger signed := by
  obtain ⟨name, primitive, entry, native⟩ := reachable.exists_native isNative
  rw [category, entry]
  cases primitive with
  | intPtr => exact ⟨true, rfl⟩
  | uintPtr => exact ⟨false, rfl⟩
  | _ => cases native

theorem Reachable.exists_raw {raw : TypeId} (isRaw : table.isRawLayout raw = true) :
    ∃ info, table.get? raw = some info ∧ info.IsUntagged ∧ info.shape.isValueType = true ∧
      info.rawLayout = true := by
  rw [isRawLayout, Option.any_eq_true] at isRaw
  obtain ⟨info, entry, isRaw⟩ := isRaw
  obtain ⟨value, layout⟩ := Bool.and_eq_true_iff.mp isRaw
  have untagged : ∀ info ∈ table.entries, info.rawLayout = true → info.IsUntagged := by
    apply reachable.forall_info
    · intro pointerSize info member layout
      have checked : (wellKnownTypes pointerSize).toList.all (fun info => !info.rawLayout) = true :=
        rfl
      have plain := List.all_eq_true.mp checked info (Array.mem_toList_iff.mpr member)
      rw [layout] at plain
      cases plain
    · exact fun _ _ => ⟨rfl, rfl⟩
    · exact fun _ _ _ _ => ⟨rfl, rfl⟩
    · exact fun _ _ _ => ⟨rfl, rfl⟩
  exact ⟨info, entry, untagged info (Array.mem_of_getElem? entry) layout, value, layout⟩

theorem Reachable.category_raw {raw : TypeId} (isRaw : table.isRawLayout raw = true) :
    (table.category raw = .structType true ∧ table.isEnum raw = false) ∨
      ∃ underlying, table.category raw = .enumType underlying ∧ table.isEnum raw = true := by
  obtain ⟨info, entry, untagged, value, layout⟩ := reachable.exists_raw isRaw
  simp only [category, isEnum, underlying?, shape?, entry, Option.map_some,
    TypeInfo.category_of_untagged untagged, TypeInfo.shapeCategory]
  cases shape : info.shape with
  | structType => exact .inl ⟨by rw [layout], rfl⟩
  | enumType underlying => exact .inr ⟨underlying, rfl, rfl⟩
  | _ => simp [shape, TypeShape.isValueType] at value

/-- The core language has no conversion of its own between two values of which one is no built-in
type. -/
theorem Reachable.lacksBuiltIn_of_values {source target : TypeId}
    (sourceValue : table.isValueType source = true) (targetValue : table.isValueType target = true)
    (declared : table.primitive? source = none ∨ table.primitive? target = none) :
    table.LacksBuiltIn source target := by
  obtain ⟨noReference, noNull, _⟩ := other_shapes_of_isValueType sourceValue
  obtain ⟨targetNoReference, _, noInterface⟩ := other_shapes_of_isValueType targetValue
  have noObject : table.isObject target = false := by
    rw [Bool.eq_false_iff]
    intro root
    rw [reachable.eq_object_of_isObject root, reachable.isReferenceType_object] at targetNoReference
    cases targetNoReference
  refine ⟨?_, ?_, ?_, ?_⟩
  · unfold isImplicitNumeric
    rcases declared with absent | absent <;> simp [absent]
  · rw [noNull, Bool.false_and]
  · simp [isImplicitReference, referenceWithin?, noReference]
  · simp [boxes, noObject, noInterface]

end Registered

end TypeTable

namespace Classifier

variable {classifier : Classifier} {query : ConversionQuery}

/-- One of the two types of a query is a native integer, and the other has this category. -/
def NativeAgainst (classifier : Classifier) (query : ConversionQuery)
    (other : TypeCategory) : Prop :=
  ∃ signed, (classifier.sourceCategory query = .nativeInteger signed ∧
    classifier.targetCategory query = other) ∨
    (classifier.sourceCategory query = other ∧
      classifier.targetCategory query = .nativeInteger signed)

/-- A structure that is a plain block of bytes comes to the rule on native integers, which takes
it. -/
theorem firstRule?_of_structure (against : classifier.NativeAgainst query (.structType true)) :
    classifier.firstRule? query = some (.nativeInt, { conversion := .identity }) := by
  obtain ⟨signed, ⟨source, target⟩ | ⟨source, target⟩⟩ := against
  all_goals
    simp [firstRule?, LegacyRule.all, applyRule?, nullToUsual?, charAliasing?,
      nativeInt?, source, target]

/-- No legacy rule says anything about an enumeration and a native integer, where the types are all
that is known. -/
theorem firstRule?_of_enumeration (typesOnly : query.expr = none) {underlying : TypeId}
    (against : classifier.NativeAgainst query (.enumType underlying)) :
    classifier.firstRule? query = none := by
  obtain ⟨signed, ⟨source, target⟩ | ⟨source, target⟩⟩ := against
  all_goals
    simp [firstRule?, LegacyRule.all, applyRule?, nullToUsual?, charAliasing?, nativeInt?,
      pointerToObject?,
      crossWidthNumeric?, binaryWidening?, legacyCast?, usualSource?, objectBridging?,
      numericFallback?, source, target, typesOnly, TypeCategory.isNumeric, TypeCategory.isIntegral]

/-- A query about types alone, from a native integer to a plain block of bytes or back. -/
structure Bridges (classifier : Classifier) (native raw : TypeId)
    (query : ConversionQuery) : Prop where
  typesOnly : query.expr = none
  isNative : native = .intPtr ∨ native = .uintPtr
  isRaw : classifier.types.isRawLayout raw = true
  ends : (query.source = native ∧ query.target = raw) ∨ (query.source = raw ∧ query.target = native)

section Bridging

variable {native raw : TypeId} (bridges : classifier.Bridges native raw query)

include bridges

theorem Bridges.noLambda : query.expr.filter classifier.exprs.isLambda = none := by
  rw [bridges.typesOnly]
  rfl

variable (reachable : classifier.types.Reachable)

include reachable

theorem Bridges.against : classifier.NativeAgainst query (classifier.types.category raw) := by
  obtain ⟨signed, category⟩ := reachable.category_native bridges.isNative
  refine ⟨signed, ?_⟩
  unfold sourceCategory targetCategory
  rcases bridges.ends with ⟨source, target⟩ | ⟨source, target⟩
  · exact .inl ⟨by rw [source, category], by rw [target]⟩
  · exact .inr ⟨by rw [source], by rw [target, category]⟩

theorem Bridges.different : query.source ≠ query.target := by
  have apart : native ≠ raw := by
    rintro rfl
    obtain ⟨signed, category⟩ := reachable.category_native bridges.isNative
    rcases reachable.category_raw bridges.isRaw with ⟨isStruct, _⟩ | ⟨underlying, isEnum, _⟩ <;>
      simp_all
  rcases bridges.ends with ⟨source, target⟩ | ⟨source, target⟩
  · rw [source, target]
    exact apart
  · rw [source, target]
    exact apart.symm

/-- Between the two the core language leaves everything to the operators that the block declares. -/
theorem Bridges.standardImplicit_eq :
    classifier.types.standardImplicit query.source query.target =
      .ofOperator? (classifier.types.closestOperator? query.source query.target true) := by
  obtain ⟨name, primitive, nativeEntry, _⟩ := reachable.exists_native bridges.isNative
  obtain ⟨info, rawEntry, untagged, value, _⟩ := reachable.exists_raw bridges.isRaw
  have nativeValue : classifier.types.isValueType native = true := by
    simp [TypeTable.isValueType, TypeTable.shape?, nativeEntry, TypeInfo.ofPrimitive,
      TypeShape.isValueType]
  have rawValue : classifier.types.isValueType raw = true := by
    simp [TypeTable.isValueType, TypeTable.shape?, rawEntry, value]
  have declared : classifier.types.primitive? raw = none := by
    simp [TypeTable.primitive?, rawEntry, untagged.primitive]
  have different := bridges.different reachable
  rcases bridges.ends with ⟨source, target⟩ | ⟨source, target⟩
  · rw [source, target] at different ⊢
    exact (reachable.lacksBuiltIn_of_values nativeValue rawValue
      (.inr declared)).standardImplicit_eq different
      (by simp [nativeEntry]) (by simp [rawEntry])
  · rw [source, target] at different ⊢
    exact (reachable.lacksBuiltIn_of_values rawValue nativeValue
      (.inl declared)).standardImplicit_eq different
      (by simp [rawEntry]) (by simp [nativeEntry])

/-- The legacy dialects take a native integer for a plain block of bytes, and the block for the
integer, exactly if the block is no enumeration. With an enumeration no legacy rule decides, and the
core language knows only the operators that the enumeration declares. -/
theorem raw_bridging_characterised (dialect : classifier.options.dialect ≠ .core) :
    (classifier.classify query = ⟨⟨.identity, {}⟩, .legacy .nativeInt⟩ ↔
      classifier.types.isEnum raw = false) ∧
    (classifier.types.isEnum raw = true →
      classifier.classify query =
        ⟨⟨classifier.standard.implicit classifier.types query.source query.target, {}⟩, .standard⟩ ∧
      (classifier.standard = .core → (classifier.classify query).conversion =
        .ofOperator? (classifier.types.closestOperator? query.source query.target true))) := by
  have legacy : classifier.options.legacyRules = true := bne_iff_ne.mpr dialect
  have against := bridges.against reachable
  have different := bridges.different reachable
  rcases reachable.category_raw bridges.isRaw with ⟨category, noEnum⟩ |
    ⟨underlying, category, isEnum⟩
  · rw [category] at against
    have taken :=
      classify_of_rule bridges.noLambda different legacy (firstRule?_of_structure against)
    exact ⟨iff_of_true taken noEnum, by simp [noEnum]⟩
  · rw [category] at against
    have left :=
      classify_of_no_rule bridges.noLambda different
      (firstRule?_of_enumeration bridges.typesOnly against)
    refine ⟨iff_of_false (by simp [left]) (by simp [isEnum]), fun _ => ⟨left, ?_⟩⟩
    intro core
    rw [left, core]
    exact bridges.standardImplicit_eq reachable

end Bridging

/-- A structure and an enumeration that are both declared as plain blocks of bytes. -/
def rawBlocks : Classifier where
  types :=
    let rect :=
      ((TypeTable.ofPointerSize 8).register
        { name := "RECT", shape := .structType 16, rawLayout := true }).1
    (rect.register { name := "Color", shape := .enumType .long, rawLayout := true }).1
  exprs := ⟨#[]⟩
  options := .forDialect .vo

theorem rawBlocks_bridge_rect :
    rawBlocks.types.Reachable ∧ rawBlocks.types.isRawLayout ⟨33⟩ = true ∧
      rawBlocks.classify ⟨none, .intPtr, ⟨33⟩⟩ = ⟨⟨.identity, {}⟩, .legacy .nativeInt⟩ ∧
      rawBlocks.classify ⟨none, ⟨33⟩, .uintPtr⟩ = ⟨⟨.identity, {}⟩, .legacy .nativeInt⟩ := by
  have reachable : rawBlocks.types.Reachable := .step (.step (.start 8) (.register _)) (.register _)
  have dialect : rawBlocks.options.dialect ≠ .core := by decide
  obtain ⟨isRaw, noEnum⟩ :
      rawBlocks.types.isRawLayout ⟨33⟩ = true ∧ rawBlocks.types.isEnum ⟨33⟩ = false := by
        decide +kernel
  have toRect : rawBlocks.Bridges .intPtr ⟨33⟩ ⟨none, .intPtr, ⟨33⟩⟩ :=
    ⟨rfl, .inl rfl, isRaw, .inl ⟨rfl, rfl⟩⟩
  have fromRect : rawBlocks.Bridges .uintPtr ⟨33⟩ ⟨none, ⟨33⟩, .uintPtr⟩ :=
    ⟨rfl, .inr rfl, isRaw, .inr ⟨rfl, rfl⟩⟩
  exact ⟨reachable, isRaw, (raw_bridging_characterised toRect reachable dialect).1.mpr noEnum,
    (raw_bridging_characterised fromRect reachable dialect).1.mpr noEnum⟩

/-- Native integers are not the enumeration, and it is none of them. -/
theorem rawBlocks_leave_color :
    rawBlocks.types.Reachable ∧ rawBlocks.options.dialect ≠ .core ∧
      rawBlocks.types.isRawLayout ⟨34⟩ = true ∧
      rawBlocks.classify ⟨none, .intPtr, ⟨34⟩⟩ = ⟨⟨.noConversion, {}⟩, .standard⟩ ∧
      rawBlocks.classify ⟨none, ⟨34⟩, .intPtr⟩ = ⟨⟨.noConversion, {}⟩, .standard⟩ :=
  ⟨.step (.step (.start 8) (.register _)) (.register _), by decide +kernel⟩

end Classifier

end DialectBinder
