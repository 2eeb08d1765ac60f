import DialectBinder.Types.Hierarchy

/-! The properties of types by name, as a listing of a type shows them. -/

namespace DialectBinder.TypeTable

/-- Every property that a listing may show, in its order. -/
def properties : List (String × (TypeTable → TypeId → Bool)) := [
  ("integral", isIntegral), ("signed_integral", isSignedIntegral), ("floating", isFloating), ("numeric", isNumeric),
  ("native_integer", isNativeInteger), ("char", isChar), ("boolean", isBoolean), ("decimal", isDecimal),
  ("pointer_like", isPointer), ("void_pointer", isVoidPointer), ("usual", isUsual), ("psz", isPsz),
  ("legacy_float", isLegacyFloat), ("legacy_date", isLegacyDate), ("legacy_symbol", isLegacySymbol),
  ("currency", isCurrency), ("codeblock_like", isCodeblockLike), ("legacy_array_like", isLegacyArrayLike),
  ("enum", isEnum), ("interface", isInterface), ("class", isClass), ("delegate", isDelegate), ("array", isArray),
  ("value_type", isValueType), ("reference_type", isReferenceType), ("raw_layout", isRawLayout),
  ("string", isString), ("object", isObject), ("null", isNull)]

/-- The names of the properties that a type has. -/
def propertyNames (table : TypeTable) (id : TypeId) : List String :=
  (properties.filter fun property => property.2 table id).map (·.1)

end DialectBinder.TypeTable
