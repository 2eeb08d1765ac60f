import DialectBinder.Proofs.Lists
import DialectBinder.Proofs.RegisteredTypes
import DialectBinder.Types.Properties

/-! The category of a type against the questions about it. A category is told by the tags of a type
first and by its shape last, while each question looks at one of them. Both agree because a type of
a table that registration leads to has one tag at most, and a tag leaves no choice of the shape. -/

namespace DialectBinder

namespace TypeCategory

def isSigned : TypeCategory → Bool
  | integral signed _ | nativeInteger signed => signed
  | _ => false

def isNativeInteger : TypeCategory → Bool
  | nativeInteger _ => true
  | _ => false

def isFloating : TypeCategory → Bool
  | floating _ => true
  | _ => false

def size? : TypeCategory → Option Nat
  | integral _ size | floating size => some size
  | _ => none

def isClass : TypeCategory → Bool
  | string | object | classType => true
  | _ => false

def isValueType : TypeCategory → Bool
  | boolean | char | integral _ _ | nativeInteger _ | floating _ | decimal | void => true
  | usual | psz | legacyFloat | legacyDate | legacySymbol | currency => true
  | enumType _ | structType _ => true
  | _ => false

def isReferenceType : TypeCategory → Bool
  | string | object | array _ | delegate _ | interfaceType | classType => true
  | _ => false

/-- What tells a category. -/
inductive Origin where
  | primitiveTag
  | legacyTag
  | shape
  | nothing
deriving DecidableEq

def origin : TypeCategory → Origin
  | boolean | char | integral _ _ | nativeInteger _ | floating _ | decimal | string | object |
      void => .primitiveTag
  | usual | psz | legacyFloat | legacyDate | legacySymbol | currency => .legacyTag
  | unknown => .nothing
  | _ => .shape

end TypeCategory

def Primitive.shape : Primitive → TypeShape
  | object | string => .classType
  | _ => .structType

def LegacyType.shape : LegacyType → TypeShape
  | codeblock | array => .classType
  | _ => .structType

/-- The category of a shape that no tagged type has. -/
def TypeShape.ownCategory? : TypeShape → Option TypeCategory
  | classType | structType => none
  | enumType underlying => some (.enumType underlying)
  | interfaceType => some .interfaceType
  | pointerTo pointee => some (.pointer pointee)
  | arrayOf element => some (.array element)
  | delegateType parameters => some (.delegate parameters)
  | nullType => some .null
  | errorType => some .error

namespace TypeInfo

/-- Whether the type carries no tag, or a single one that decides its shape. -/
def isTaggedOnce (info : TypeInfo) : Bool :=
  match info.primitive, info.legacy with
  | none, none => true
  | some tag, none => info.shape == tag.shape
  | none, some tag => info.shape == tag.shape
  | some _, some _ => false

/-- What tells the category of a type, and what else is known of the type then. -/
inductive ToldBy (info : TypeInfo) : Prop where
  | primitive (tag : Primitive) (named : info.primitive = some tag) (only : info.legacy = none)
      (shape : info.shape = tag.shape) (told : primitiveCategory? info.size tag =
        some info.category)
  | legacy (tag : LegacyType) (named : info.legacy = some tag) (only : info.primitive = none)
      (shape : info.shape = tag.shape) (told : legacyCategory? tag = some info.category)
  | shape (told : info.category = info.shapeCategory)
      (noPrimitive : info.primitive.bind (primitiveCategory? info.size) = none)
      (noLegacy : info.legacy.bind legacyCategory? = none)

variable {info : TypeInfo}

theorem toldBy_of_isTaggedOnce (once : info.isTaggedOnce = true) : info.ToldBy := by
  unfold isTaggedOnce at once
  split at once
  · rename_i noPrimitive noLegacy
    exact .shape (by simp [category, noPrimitive, noLegacy]) (by simp [noPrimitive])
      (by simp [noLegacy])
  · rename_i tag named only
    cases told : primitiveCategory? info.size tag with
    | none =>
      exact .shape (by simp [category, named, only, told]) (by simp [named, told]) (by simp [only])
    | some category =>
      exact .primitive tag named only (beq_iff_eq.mp once)
        (by simp [TypeInfo.category, named, only, told])
  · rename_i tag only named
    cases told : legacyCategory? tag with
    | none =>
      exact .shape (by simp [category, named, only, told]) (by simp [only]) (by simp [named, told])
    | some category =>
      exact .legacy tag named only (beq_iff_eq.mp once)
        (by simp [TypeInfo.category, named, only, told])
  · cases once

theorem origin_of_primitiveCategory? {tag : Primitive} {size : Nat} {category : TypeCategory}
    (told : primitiveCategory? size tag = some category) : category.origin = .primitiveTag := by
  cases tag <;> cases told <;> rfl

theorem origin_of_legacyCategory? {tag : LegacyType} {category : TypeCategory}
    (told : legacyCategory? tag = some category) :
    category.origin = .legacyTag := by
  cases tag <;> cases told <;> rfl

theorem origin_of_size? {category : TypeCategory} {size : Nat}
    (given : category.size? = some size) :
    category.origin = .primitiveTag := by
  cases category <;> cases given <;> rfl

theorem size_of_primitiveCategory? {tag : Primitive} {size given : Nat} {category : TypeCategory}
    (told : primitiveCategory? size tag = some category) (gives : category.size? = some given) :
    size = given ∧ tag.shape = .structType := by
  cases tag <;> cases told <;> cases gives <;> exact ⟨rfl, rfl⟩

theorem origin_shapeCategory (info : TypeInfo) : info.shapeCategory.origin = .shape := by
  unfold shapeCategory
  split <;> rfl

theorem origin_of_ownCategory? {shape : TypeShape} {category : TypeCategory}
    (own : shape.ownCategory? = some category) :
    category.origin = .shape := by
  cases shape <;> cases own <;> rfl

theorem shapeCategory_eq_iff {shape : TypeShape} {category : TypeCategory}
    (own : shape.ownCategory? = some category) :
    info.shapeCategory = category ↔ info.shape = shape := by
  unfold shapeCategory
  cases shape <;> cases own <;> cases info.shape <;> simp

/-- A question about a category is one about the tag of the core language. -/
structure ReadsPrimitive (ofTag : Primitive → Bool) (ofCategory : TypeCategory → Bool) : Prop where
  tags : ∀ tag size, (primitiveCategory? size tag).any ofCategory = ofTag tag
  others : ∀ category : TypeCategory, category.origin ≠ .primitiveTag → ofCategory category = false

/-- A question about a category is one about the tag of the legacy runtime. -/
structure ReadsLegacy (ofTag : LegacyType → Bool) (ofCategory : TypeCategory → Bool) : Prop where
  tags : ∀ tag, (legacyCategory? tag).any ofCategory = ofTag tag
  others : ∀ category : TypeCategory, category.origin ≠ .legacyTag → ofCategory category = false

/-- A question about a category is one about the shape, whatever tells the category. -/
structure ReadsShape (ofShape : TypeShape → Bool) (ofCategory : TypeCategory → Bool) : Prop where
  unknown : ofCategory .unknown = false
  primitives : ∀ (tag : Primitive) size, (primitiveCategory? size tag).all
    (ofCategory · == ofShape tag.shape) = true
  legacies : ∀ tag : LegacyType, (legacyCategory? tag).all
    (ofCategory · == ofShape tag.shape) = true
  shapes : ∀ info : TypeInfo, ofCategory info.shapeCategory = ofShape info.shape

theorem ToldBy.any_primitive_eq (toldBy : info.ToldBy) {ofTag : Primitive → Bool}
    {ofCategory : TypeCategory → Bool} (reads : ReadsPrimitive ofTag ofCategory) :
    info.primitive.any ofTag = ofCategory info.category := by
  cases toldBy with
  | primitive tag named _ _ told =>
    rw [named, Option.any_some, ← reads.tags tag info.size, told, Option.any_some]
  | legacy tag _ only _ told =>
    rw [only, Option.any_none, reads.others _ (by simp [origin_of_legacyCategory? told])]
  | shape told noPrimitive _ =>
    rw [told, reads.others _ (by simp [origin_shapeCategory])]
    cases named : info.primitive with
    | none => rfl
    | some tag =>
      rw [named, Option.bind_some] at noPrimitive
      rw [Option.any_some, ← reads.tags tag info.size, noPrimitive, Option.any_none]

theorem ToldBy.any_legacy_eq (toldBy : info.ToldBy) {ofTag : LegacyType → Bool}
    {ofCategory : TypeCategory → Bool} (reads : ReadsLegacy ofTag ofCategory) :
    info.legacy.any ofTag = ofCategory info.category := by
  cases toldBy with
  | primitive tag _ only _ told =>
    rw [only, Option.any_none, reads.others _ (by simp [origin_of_primitiveCategory? told])]
  | legacy tag named _ _ told =>
    rw [named, Option.any_some, ← reads.tags tag, told, Option.any_some]
  | shape told _ noLegacy =>
    rw [told, reads.others _ (by simp [origin_shapeCategory])]
    cases named : info.legacy with
    | none => rfl
    | some tag =>
      rw [named, Option.bind_some] at noLegacy
      rw [Option.any_some, ← reads.tags tag, noLegacy, Option.any_none]

theorem ToldBy.shape_eq (toldBy : info.ToldBy) {ofShape : TypeShape → Bool}
    {ofCategory : TypeCategory → Bool} (reads : ReadsShape ofShape ofCategory) :
    ofShape info.shape = ofCategory info.category := by
  cases toldBy with
  | primitive tag _ _ shape told =>
    have same := reads.primitives tag info.size
    rw [told, Option.all_some, beq_iff_eq] at same
    rw [shape, same]
  | legacy tag _ _ shape told =>
    have same := reads.legacies tag
    rw [told, Option.all_some, beq_iff_eq] at same
    rw [shape, same]
  | shape told _ _ => rw [told, reads.shapes]

/-- A category tells each shape that no tagged type has. -/
theorem ToldBy.category_eq_iff (toldBy : info.ToldBy) {shape : TypeShape} {category : TypeCategory}
    (own : shape.ownCategory? = some category) : info.category = category ↔ info.shape = shape := by
  have ofShape := origin_of_ownCategory? own
  cases toldBy with
  | primitive tag _ _ fixed told =>
    refine iff_of_false ?_ ?_
    · rintro rfl
      simp [origin_of_primitiveCategory? told] at ofShape
    · rintro rfl
      rw [fixed] at own
      cases tag <;> cases own
  | legacy tag _ _ fixed told =>
    refine iff_of_false ?_ ?_
    · rintro rfl
      simp [origin_of_legacyCategory? told] at ofShape
    · rintro rfl
      rw [fixed] at own
      cases tag <;> cases own
  | shape told _ _ => rw [told, shapeCategory_eq_iff own]

/-- A size that the category gives is that of the type, which is no enumeration. -/
theorem ToldBy.size_eq (toldBy : info.ToldBy) {size : Nat}
    (gives : info.category.size? = some size) :
    info.size = size ∧ info.shape = .structType := by
  have ofTag := origin_of_size? gives
  cases toldBy with
  | primitive tag _ _ shape told =>
    rw [shape]
    exact size_of_primitiveCategory? told gives
  | legacy tag _ _ _ told => simp [origin_of_legacyCategory? told] at ofTag
  | shape told _ _ => simp [told, origin_shapeCategory] at ofTag

section Readings

theorem readsPrimitive_isIntegral :
    ReadsPrimitive Primitive.isIntegral TypeCategory.isIntegral where
  tags tag size := by cases tag <;> rfl
  others category := by cases category <;> simp [TypeCategory.origin, TypeCategory.isIntegral]

theorem readsPrimitive_isSigned :
    ReadsPrimitive Primitive.isSignedIntegral TypeCategory.isSigned where
  tags tag size := by cases tag <;> rfl
  others category := by cases category <;> simp [TypeCategory.origin, TypeCategory.isSigned]

theorem readsPrimitive_isNumeric : ReadsPrimitive Primitive.isNumeric TypeCategory.isNumeric where
  tags tag size := by cases tag <;> rfl
  others category := by cases category <;> simp [TypeCategory.origin, TypeCategory.isNumeric]

theorem readsPrimitive_isNativeInteger :
    ReadsPrimitive Primitive.isNativeInteger TypeCategory.isNativeInteger where
  tags tag size := by cases tag <;> rfl
  others category := by cases category <;> simp [TypeCategory.origin, TypeCategory.isNativeInteger]

theorem readsPrimitive_isFloating :
    ReadsPrimitive Primitive.isFloating TypeCategory.isFloating where
  tags tag size := by cases tag <;> rfl
  others category := by cases category <;> simp [TypeCategory.origin, TypeCategory.isFloating]

theorem readsPrimitive_tag {tag : Primitive} {category : TypeCategory}
    (own : ∀ other size, primitiveCategory? size other = some category ↔ other = tag) :
    ReadsPrimitive (· == tag) (· == category) where
  tags other size := by
    rw [Bool.eq_iff_iff, Option.any_eq_true, beq_iff_eq, ← own other size]
    simp
  others other elsewhere := by
    rw [beq_eq_false_iff_ne]
    rintro rfl
    exact elsewhere (origin_of_primitiveCategory? ((own tag 0).mpr rfl))

theorem readsLegacy_tag {tag : LegacyType} {category : TypeCategory}
    (told : legacyCategory? tag = some category) :
    ReadsLegacy (· == tag) (· == category) where
  tags other := by cases tag <;> cases told <;> cases other <;> rfl
  others other elsewhere := by
    rw [beq_eq_false_iff_ne]
    rintro rfl
    exact elsewhere (origin_of_legacyCategory? told)

theorem readsShape_isClass : ReadsShape (· == .classType) TypeCategory.isClass where
  unknown := rfl
  primitives tag size := by cases tag <;> rfl
  legacies tag := by cases tag <;> rfl
  shapes info := by
    unfold shapeCategory
    cases info.shape <;> rfl

theorem readsShape_isValueType : ReadsShape TypeShape.isValueType TypeCategory.isValueType where
  unknown := rfl
  primitives tag size := by cases tag <;> rfl
  legacies tag := by cases tag <;> rfl
  shapes info := by
    unfold shapeCategory
    cases info.shape <;> rfl

theorem readsShape_isReferenceType :
    ReadsShape TypeShape.isReferenceType TypeCategory.isReferenceType where
  unknown := rfl
  primitives tag size := by cases tag <;> rfl
  legacies tag := by cases tag <;> rfl
  shapes info := by
    unfold shapeCategory
    cases info.shape <;> rfl

end Readings

end TypeInfo

namespace TypeTable

variable {table : TypeTable} {id : TypeId}

theorem category_of_found {info : TypeInfo} (found : table.get? id = some info) :
    table.category id = info.category := by
  rw [category, found]

theorem category_of_unknown (unknown : table.get? id = none) : table.category id = .unknown := by
  rw [category, unknown]

section Registered

variable (reachable : table.Reachable)

include reachable

theorem Reachable.toldBy {info : TypeInfo} (found : table.get? id = some info) : info.ToldBy := by
  have wellKnown (pointerSize : Nat) (info : TypeInfo)
      (member : info ∈ wellKnownTypes pointerSize) :
      info.isTaggedOnce = true := by
    have checked : (wellKnownTypes pointerSize).toList.all TypeInfo.isTaggedOnce = true := rfl
    exact List.all_eq_true.mp checked info (Array.mem_toList_iff.mpr member)
  have once :=
    reachable.forall_info (·.isTaggedOnce = true) wellKnown (fun _ => rfl) (fun _ _ _ =>
      rfl) fun _ _ => rfl
  exact TypeInfo.toldBy_of_isTaggedOnce (once info (Array.mem_of_getElem? found))

theorem Reachable.any_primitive?_eq {ofTag : Primitive → Bool} {ofCategory : TypeCategory → Bool}
    (reads : TypeInfo.ReadsPrimitive ofTag ofCategory) :
    (table.primitive? id).any ofTag = ofCategory (table.category id) := by
  cases found : table.get? id with
  | none =>
    rw [category_of_unknown found, reads.others .unknown (by decide), primitive?, found]; rfl
  | some info =>
    rw [category_of_found found, ← (reachable.toldBy found).any_primitive_eq reads,
      primitive?, found]; rfl

theorem Reachable.any_legacy?_eq {ofTag : LegacyType → Bool} {ofCategory : TypeCategory → Bool}
    (reads : TypeInfo.ReadsLegacy ofTag ofCategory) :
    (table.legacy? id).any ofTag = ofCategory (table.category id) := by
  cases found : table.get? id with
  | none => rw [category_of_unknown found, reads.others .unknown (by decide), legacy?, found]; rfl
  | some info =>
    rw [category_of_found found, ← (reachable.toldBy found).any_legacy_eq reads,
      legacy?, found]; rfl

theorem Reachable.any_shape?_eq {ofShape : TypeShape → Bool} {ofCategory : TypeCategory → Bool}
    (reads : TypeInfo.ReadsShape ofShape ofCategory) :
    (table.shape? id).any ofShape = ofCategory (table.category id) := by
  cases found : table.get? id with
  | none => rw [category_of_unknown found, reads.unknown, shape?, found]; rfl
  | some info =>
    rw [category_of_found found, ← (reachable.toldBy found).shape_eq reads, shape?, found]; rfl

theorem Reachable.category_eq_iff {shape : TypeShape} {category : TypeCategory}
    (own : shape.ownCategory? = some category) :
    table.category id = category ↔ table.shape? id = some shape := by
  cases found : table.get? id with
  | none =>
    have ofShape := TypeInfo.origin_of_ownCategory? own
    rw [category_of_unknown found, shape?, found]
    refine iff_of_false ?_ (by simp)
    rintro rfl
    cases ofShape
  | some info =>
    rw [category_of_found found, (reachable.toldBy found).category_eq_iff own, shape?, found]; simp

theorem Reachable.sizeInBytes_of_category {size : Nat}
    (gives : (table.category id).size? = some size) :
    table.sizeInBytes id = size := by
  cases found : table.get? id with
  | none =>
    rw [category_of_unknown found] at gives
    cases gives
  | some info =>
    rw [category_of_found found] at gives
    obtain ⟨same, shape⟩ := (reachable.toldBy found).size_eq gives
    simp [sizeInBytes, underlying?, shape?, found, shape, same]

end Registered

theorem underlying?_eq_some_iff {underlying : TypeId} :
    table.underlying? id = some underlying ↔ table.shape? id = some (.enumType underlying) := by
  unfold underlying?
  split <;> simp_all

theorem pointee?_eq_some_iff {pointee : TypeId} :
    table.pointee? id = some pointee ↔ table.shape? id = some (.pointerTo pointee) := by
  unfold pointee?
  split <;> simp_all

theorem element?_eq_some_iff_shape? {element : TypeId} :
    table.element? id = some element ↔ table.shape? id = some (.arrayOf element) := by
  unfold element?
  split <;> simp_all

theorem delegateParameters?_eq_some_iff {parameters : Nat} :
    table.delegateParameters? id = some parameters ↔
      table.shape? id = some (.delegateType parameters) := by
  unfold delegateParameters?
  split <;> simp_all

/-- What a category tells of a type. -/
structure CategoryTells (table : TypeTable) (id : TypeId) (category : TypeCategory) : Prop where
  integral : table.isIntegral id = category.isIntegral
  signedIntegral : table.isSignedIntegral id = category.isSigned
  numeric : table.isNumeric id = category.isNumeric
  nativeInteger : table.isNativeInteger id = category.isNativeInteger
  floating : table.isFloating id = category.isFloating
  sizes : ∀ size, category.size? = some size → table.sizeInBytes id = size
  decimal : table.isDecimal id = (category == .decimal)
  char : table.isChar id = (category == .char)
  boolean : table.isBoolean id = (category == .boolean)
  string : table.isString id = (category == .string)
  object : table.isObject id = (category == .object)
  usual : table.isUsual id = (category == .usual)
  psz : table.isPsz id = (category == .psz)
  legacyFloat : table.isLegacyFloat id = (category == .legacyFloat)
  legacyDate : table.isLegacyDate id = (category == .legacyDate)
  legacySymbol : table.isLegacySymbol id = (category == .legacySymbol)
  currency : table.isCurrency id = (category == .currency)
  enumeration : ∀ underlying, category = .enumType underlying ↔
    table.underlying? id = some underlying
  pointer : ∀ pointee, category = .pointer pointee ↔ table.pointee? id = some pointee
  array : ∀ element, category = .array element ↔ table.element? id = some element
  delegate : ∀ parameters, category = .delegate parameters ↔
    table.delegateParameters? id = some parameters
  interface : table.isInterface id = (category == .interfaceType)
  null : table.isNull id = (category == .null)
  isClass : table.isClass id = category.isClass
  valueType : table.isValueType id = category.isValueType
  referenceType : table.isReferenceType id = category.isReferenceType

theorem Reachable.categoryTells (reachable : table.Reachable) (id : TypeId) :
    table.CategoryTells id (table.category id) := by
  have tagged {tag : Primitive} {category : TypeCategory}
      (own : ∀ other size, TypeInfo.primitiveCategory? size other = some category ↔ other = tag) :
      (table.primitive? id == some tag) = (table.category id == category) := by
    rw [Option.beq_some_eq_any, reachable.any_primitive?_eq (TypeInfo.readsPrimitive_tag own)]
  have legacy {tag : LegacyType} {category : TypeCategory}
      (told : TypeInfo.legacyCategory? tag = some category) :
      (table.legacy? id == some tag) = (table.category id == category) := by
    rw [Option.beq_some_eq_any, reachable.any_legacy?_eq (TypeInfo.readsLegacy_tag told)]
  have shaped {shape : TypeShape} {category : TypeCategory}
      (own : shape.ownCategory? = some category) :
      (table.shape? id == some shape) = (table.category id == category) := by
    rw [Bool.eq_iff_iff, beq_iff_eq, beq_iff_eq, reachable.category_eq_iff own]
  exact {
    integral := reachable.any_primitive?_eq TypeInfo.readsPrimitive_isIntegral
    signedIntegral := reachable.any_primitive?_eq TypeInfo.readsPrimitive_isSigned
    numeric := reachable.any_primitive?_eq TypeInfo.readsPrimitive_isNumeric
    nativeInteger := reachable.any_primitive?_eq TypeInfo.readsPrimitive_isNativeInteger
    floating := reachable.any_primitive?_eq TypeInfo.readsPrimitive_isFloating
    sizes := fun _ => reachable.sizeInBytes_of_category
    decimal := tagged fun other size => by cases other <;> simp [TypeInfo.primitiveCategory?]
    char := tagged fun other size => by cases other <;> simp [TypeInfo.primitiveCategory?]
    boolean := tagged fun other size => by cases other <;> simp [TypeInfo.primitiveCategory?]
    string := tagged fun other size => by cases other <;> simp [TypeInfo.primitiveCategory?]
    object := tagged fun other size => by cases other <;> simp [TypeInfo.primitiveCategory?]
    usual := legacy rfl
    psz := legacy rfl
    legacyFloat := legacy rfl
    legacyDate := legacy rfl
    legacySymbol := legacy rfl
    currency := legacy rfl
    enumeration := fun _ => by rw [underlying?_eq_some_iff]; exact reachable.category_eq_iff rfl
    pointer := fun _ => by rw [pointee?_eq_some_iff]; exact reachable.category_eq_iff rfl
    array := fun _ => by rw [element?_eq_some_iff_shape?]; exact reachable.category_eq_iff rfl
    delegate :=
      fun _ => by rw [delegateParameters?_eq_some_iff]; exact reachable.category_eq_iff rfl
    interface := shaped rfl
    null := shaped rfl
    isClass := by
      rw [isClass, Option.beq_some_eq_any, reachable.any_shape?_eq TypeInfo.readsShape_isClass]
    valueType := reachable.any_shape?_eq TypeInfo.readsShape_isValueType
    referenceType := reachable.any_shape?_eq TypeInfo.readsShape_isReferenceType }

section Consequences

variable {category : TypeCategory} (tells : table.CategoryTells id category)

include tells

/-- The category of an integer of fixed size holds its sign and its size. -/
theorem CategoryTells.eq_integral_iff {signed : Bool} {size : Nat} :
    category = .integral signed size ↔
      table.isIntegral id = true ∧ table.isNativeInteger id = false ∧
        table.isSignedIntegral id = signed ∧
        table.sizeInBytes id = size := by
  rw [tells.integral, tells.nativeInteger, tells.signedIntegral]
  constructor
  · rintro rfl
    exact ⟨rfl, rfl, rfl, tells.sizes size rfl⟩
  · rintro ⟨integral, fixed, rfl, rfl⟩
    cases category with
    | integral signed size => rw [tells.sizes size rfl]; rfl
    | nativeInteger signed => cases fixed
    | _ => cases integral

theorem CategoryTells.eq_nativeInteger_iff {signed : Bool} :
    category = .nativeInteger signed ↔
      table.isNativeInteger id = true ∧ table.isSignedIntegral id = signed := by
  rw [tells.nativeInteger, tells.signedIntegral]
  cases category <;> simp [TypeCategory.isNativeInteger, TypeCategory.isSigned]

theorem CategoryTells.eq_floating_iff {size : Nat} :
    category = .floating size ↔ table.isFloating id = true ∧ table.sizeInBytes id = size := by
  rw [tells.floating]
  constructor
  · rintro rfl
    exact ⟨rfl, tells.sizes size rfl⟩
  · rintro ⟨floating, rfl⟩
    cases category with
    | floating size => rw [tells.sizes size rfl]
    | _ => cases floating

theorem CategoryTells.isEnum_iff :
    table.isEnum id = true ↔ ∃ underlying, category = .enumType underlying := by
  simp [isEnum, Option.isSome_iff_exists, tells.enumeration]

theorem CategoryTells.isPointer_iff :
    table.isPointer id = true ↔ ∃ pointee, category = .pointer pointee := by
  simp [isPointer, Option.isSome_iff_exists, tells.pointer]

theorem CategoryTells.isArray_iff :
    table.isArray id = true ↔ ∃ element, category = .array element := by
  simp [isArray, Option.isSome_iff_exists, tells.array]

theorem CategoryTells.isDelegate_iff :
    table.isDelegate id = true ↔ ∃ parameters, category = .delegate parameters := by
  simp [isDelegate, Option.isSome_iff_exists, tells.delegate]

end Consequences

/-- The properties that a category leaves open, by their names. -/
def beyondCategory : List String := ["codeblock_like", "legacy_array_like", "raw_layout"]

section SameCategory

variable {other : TypeTable} {otherId : TypeId} {category : TypeCategory}
    (one : table.CategoryTells id category)
  (two : other.CategoryTells otherId category)

include one two

theorem CategoryTells.isPointer_eq : table.isPointer id = other.isPointer otherId := by
  rw [Bool.eq_iff_iff, one.isPointer_iff, two.isPointer_iff]

theorem CategoryTells.isArrayOf_eq (element : TypeId) :
    table.isArrayOf id element = other.isArrayOf otherId element := by
  rw [Bool.eq_iff_iff, isArrayOf, isArrayOf, beq_iff_eq, beq_iff_eq, ← one.array, ← two.array]

theorem CategoryTells.isLegacyCastable_eq :
    table.isLegacyCastable id = other.isLegacyCastable otherId := by
  rw [isLegacyCastable, isLegacyCastable, one.isPointer_eq two, one.integral, two.integral,
    one.nativeInteger, two.nativeInteger, one.valueType, two.valueType]

/-- Types of one category, whatever the tables, have the other properties in common. -/
theorem CategoryTells.property_eq :
    ∀ property ∈ properties, property.1 ∉ beyondCategory →
      property.2 table id = property.2 other otherId := by
  have pointer := one.isPointer_eq two
  have voidPointer : table.isVoidPointer id = other.isVoidPointer otherId := by
    rw [Bool.eq_iff_iff, isVoidPointer, isVoidPointer, beq_iff_eq, beq_iff_eq,
      ← one.pointer, ← two.pointer]
  have enumeration : table.isEnum id = other.isEnum otherId := by
    rw [Bool.eq_iff_iff, one.isEnum_iff, two.isEnum_iff]
  have array : table.isArray id = other.isArray otherId := by
    rw [Bool.eq_iff_iff, one.isArray_iff, two.isArray_iff]
  have delegate : table.isDelegate id = other.isDelegate otherId := by
    rw [Bool.eq_iff_iff, one.isDelegate_iff, two.isDelegate_iff]
  simp [properties, beyondCategory, voidPointer, enumeration, pointer, array, delegate,
    one.integral, two.integral,
    one.signedIntegral, two.signedIntegral, one.floating, two.floating, one.numeric, two.numeric,
    one.nativeInteger,
    two.nativeInteger, one.char, two.char, one.boolean, two.boolean, one.decimal, two.decimal,
    one.usual, two.usual,
    one.psz, two.psz, one.legacyFloat, two.legacyFloat, one.legacyDate, two.legacyDate,
    one.legacySymbol,
    two.legacySymbol, one.currency, two.currency, one.interface, two.interface, one.isClass,
    two.isClass, one.valueType,
    two.valueType, one.referenceType, two.referenceType, one.string, two.string, one.object,
    two.object, one.null, two.null]

end SameCategory

theorem derivesFrom_of_unknown (unknown : table.get? id = none) (base : TypeId) :
    table.derivesFrom id base = false := by
  simp [derivesFrom, maxBaseDepth, derivesWithin, unknown]

theorem implementsInterface_of_unknown (unknown : table.get? id = none) (target : TypeId) :
    table.implementsInterface id target = false := by
  rw [implementsInterface]
  cases maxBaseDepth <;> simp [implementsWithin, implementsWithin.implementsHere, unknown]

theorem properties_of_unknown (unknown : table.get? id = none) :
    ∀ property ∈ properties, property.2 table id = false := by
  have noPrimitive : table.primitive? id = none := by simp [primitive?, unknown]
  have noLegacy : table.legacy? id = none := by simp [legacy?, unknown]
  have noShape : table.shape? id = none := by simp [shape?, unknown]
  simp [properties, isIntegral, isSignedIntegral, isFloating, isNumeric, isNativeInteger, isChar,
    isBoolean, isDecimal,
    isString, isObject, isUsual, isPsz, isLegacyFloat, isLegacyDate, isLegacySymbol, isCurrency,
    isClass, isInterface,
    isNull, pointee?, isPointer, isVoidPointer, underlying?, isEnum, delegateParameters?,
    isDelegate, element?, isArray,
    isValueType, isReferenceType, isRawLayout, isCodeblockLike, isLegacyArrayLike,
    derivesFrom_of_unknown unknown, noPrimitive, noLegacy, noShape, unknown]

theorem Reachable.category_eq_unknown_iff (reachable : table.Reachable) :
    table.category id = .unknown ↔ table.get? id = none := by
  cases found : table.get? id with
  | none => exact iff_of_true (category_of_unknown found) rfl
  | some info =>
    rw [category_of_found found]
    refine iff_of_false ?_ (by simp)
    intro unknown
    have nowhere : info.category.origin = .nothing := by rw [unknown]; rfl
    cases reachable.toldBy found with
    | primitive tag _ _ _ told => simp [TypeInfo.origin_of_primitiveCategory? told] at nowhere
    | legacy tag _ _ _ told => simp [TypeInfo.origin_of_legacyCategory? told] at nowhere
    | shape told _ _ => simp [told, TypeInfo.origin_shapeCategory] at nowhere

/-- The category of a type answers all questions about it but those about its layout and its
ancestors. Numbers, the other types of the core language and the values of the legacy runtime are
told apart, with sign and size; so are the shapes that are neither classes nor structures, with what
they are made of; value types and reference types are unions of categories. So two types of one
category have the same properties. A type is unknown if the table does not hold it, and then it has
no property, no ancestor and no size. -/
theorem category_determines_predicates (reachable : table.Reachable) (id : TypeId) :
    table.CategoryTells id (table.category id) ∧
    (∀ signed size, table.category id = .integral signed size ↔
      table.isIntegral id = true ∧ table.isNativeInteger id = false ∧
        table.isSignedIntegral id = signed ∧
        table.sizeInBytes id = size) ∧
    (∀ signed, table.category id = .nativeInteger signed ↔
      table.isNativeInteger id = true ∧ table.isSignedIntegral id = signed) ∧
    (∀ size, table.category id = .floating size ↔
      table.isFloating id = true ∧ table.sizeInBytes id = size) ∧
    (table.isEnum id = true ↔ ∃ underlying, table.category id = .enumType underlying) ∧
    (table.isPointer id = true ↔ ∃ pointee, table.category id = .pointer pointee) ∧
    (table.isArray id = true ↔ ∃ element, table.category id = .array element) ∧
    (table.isDelegate id = true ↔ ∃ parameters, table.category id = .delegate parameters) ∧
    (∀ other otherId, other.Reachable → other.category otherId = table.category id →
      (∀ property ∈ properties, property.1 ∉ beyondCategory →
        property.2 table id = property.2 other otherId) ∧
        table.isLegacyCastable id = other.isLegacyCastable otherId ∧
        ∀ element, table.isArrayOf id element = other.isArrayOf otherId element) ∧
    (table.category id = .unknown ↔ table.size ≤ id.index) ∧
    (table.size ≤ id.index →
      (∀ property ∈ properties, property.2 table id = false) ∧ table.isLegacyCastable id = false ∧
        table.sizeInBytes id = 0 ∧ ∀ other, table.isArrayOf id other = false ∧
          table.derivesFrom id other = false ∧
          table.implementsInterface id other = false) := by
  have tells := reachable.categoryTells id
  have outside : table.get? id = none ↔ table.size ≤ id.index := Array.getElem?_eq_none_iff
  refine ⟨tells, fun _ _ => tells.eq_integral_iff, fun _ => tells.eq_nativeInteger_iff,
    fun _ => tells.eq_floating_iff,
    tells.isEnum_iff, tells.isPointer_iff, tells.isArray_iff, tells.isDelegate_iff, ?_, ?_, ?_⟩
  · intro other otherId reached same
    have alike : other.CategoryTells otherId (table.category id) :=
      same ▸ reached.categoryTells otherId
    exact ⟨tells.property_eq alike, tells.isLegacyCastable_eq alike, tells.isArrayOf_eq alike⟩
  · rw [reachable.category_eq_unknown_iff, outside]
  · intro beyond
    have unknown := outside.mpr beyond
    refine ⟨properties_of_unknown unknown, ?_, ?_, fun other => ⟨?_, ?_, ?_⟩⟩
    · simp [isLegacyCastable, isIntegral, isPointer, pointee?, isNativeInteger, isValueType,
        primitive?, shape?, unknown]
    · simp [sizeInBytes, underlying?, shape?, unknown]
    · simp [isArrayOf, element?, shape?, unknown]
    · exact derivesFrom_of_unknown unknown other
    · exact implementsInterface_of_unknown unknown other

/-- An enumeration of colors. -/
def palette : TypeTable :=
  ((ofPointerSize 8).register { name := "Color", shape := .enumType .long }).1

/-- Colors are an enumeration, words are numbers of two bytes without a sign, and no type comes
after the colors. -/
theorem palette_determined :
    palette.Reachable ∧ palette.isEnum ⟨33⟩ = true ∧
      (palette.isSignedIntegral .word = false ∧ palette.sizeInBytes .word = 2) ∧
      palette.category ⟨34⟩ = .unknown := by
  have reachable : palette.Reachable := .step (.start 8) (.register _)
  have evaluated : palette.category ⟨33⟩ = .enumType .long ∧
      palette.category .word = .integral false 2 ∧
      palette.size = 34 := by decide +kernel
  obtain ⟨colors, words, size⟩ := evaluated
  obtain ⟨_, _, _, _, enumeration, _⟩ := category_determines_predicates reachable ⟨33⟩
  obtain ⟨_, integral, _⟩ := category_determines_predicates reachable .word
  obtain ⟨_, _, _, _, _, _, _, _, _, unknown, _⟩ := category_determines_predicates reachable ⟨34⟩
  refine ⟨reachable, enumeration.mpr ⟨.long, colors⟩,
    ((integral false 2).mp words).2.2, unknown.mpr ?_⟩
  exact Nat.le_of_eq size

end TypeTable

end DialectBinder
