import DialectBinder.Types.Table

/-! Questions about a type of a table. Of an identity that the table does not know everything is
false and the size zero. -/

namespace DialectBinder.TypeTable

def primitive? (table : TypeTable) (id : TypeId) : Option Primitive := (table.get? id).bind (·.primitive)

def legacy? (table : TypeTable) (id : TypeId) : Option LegacyType := (table.get? id).bind (·.legacy)

def shape? (table : TypeTable) (id : TypeId) : Option TypeShape := (table.get? id).map (·.shape)

def isIntegral (table : TypeTable) (id : TypeId) : Bool := (table.primitive? id).any (·.isIntegral)

def isSignedIntegral (table : TypeTable) (id : TypeId) : Bool := (table.primitive? id).any (·.isSignedIntegral)

def isFloating (table : TypeTable) (id : TypeId) : Bool := (table.primitive? id).any (·.isFloating)

/-- Integral, floating or decimal. -/
def isNumeric (table : TypeTable) (id : TypeId) : Bool := (table.primitive? id).any (·.isNumeric)

def isNativeInteger (table : TypeTable) (id : TypeId) : Bool := (table.primitive? id).any (·.isNativeInteger)

def isChar (table : TypeTable) (id : TypeId) : Bool := table.primitive? id == some .char

def isBoolean (table : TypeTable) (id : TypeId) : Bool := table.primitive? id == some .boolean

def isDecimal (table : TypeTable) (id : TypeId) : Bool := table.primitive? id == some .decimal

def isString (table : TypeTable) (id : TypeId) : Bool := table.primitive? id == some .string

def isObject (table : TypeTable) (id : TypeId) : Bool := table.primitive? id == some .object

def isUsual (table : TypeTable) (id : TypeId) : Bool := table.legacy? id == some .usual

def isPsz (table : TypeTable) (id : TypeId) : Bool := table.legacy? id == some .psz

def isLegacyFloat (table : TypeTable) (id : TypeId) : Bool := table.legacy? id == some .float

def isLegacyDate (table : TypeTable) (id : TypeId) : Bool := table.legacy? id == some .date

def isLegacySymbol (table : TypeTable) (id : TypeId) : Bool := table.legacy? id == some .symbol

def isCurrency (table : TypeTable) (id : TypeId) : Bool := table.legacy? id == some .currency

def isClass (table : TypeTable) (id : TypeId) : Bool := table.shape? id == some .classType

def isInterface (table : TypeTable) (id : TypeId) : Bool := table.shape? id == some .interfaceType

def isNull (table : TypeTable) (id : TypeId) : Bool := table.shape? id == some .nullType

/-- The type that a pointer type points to. -/
def pointee? (table : TypeTable) (id : TypeId) : Option TypeId :=
  match table.shape? id with
  | some (.pointerTo pointee) => some pointee
  | _ => none

def isPointer (table : TypeTable) (id : TypeId) : Bool := (table.pointee? id).isSome

def isVoidPointer (table : TypeTable) (id : TypeId) : Bool := table.pointee? id == some .void

/-- The type that an enumeration counts in. -/
def underlying? (table : TypeTable) (id : TypeId) : Option TypeId :=
  match table.shape? id with
  | some (.enumType underlying) => some underlying
  | _ => none

def isEnum (table : TypeTable) (id : TypeId) : Bool := (table.underlying? id).isSome

/-- The number of parameters that a delegate takes. -/
def delegateParameters? (table : TypeTable) (id : TypeId) : Option Nat :=
  match table.shape? id with
  | some (.delegateType parameters) => some parameters
  | _ => none

def isDelegate (table : TypeTable) (id : TypeId) : Bool := (table.delegateParameters? id).isSome

/-- The element type of an array type. -/
def element? (table : TypeTable) (id : TypeId) : Option TypeId :=
  match table.shape? id with
  | some (.arrayOf element) => some element
  | _ => none

def isArray (table : TypeTable) (id : TypeId) : Bool := (table.element? id).isSome

def isArrayOf (table : TypeTable) (id element : TypeId) : Bool := table.element? id == some element

def isValueType (table : TypeTable) (id : TypeId) : Bool := (table.shape? id).any (·.isValueType)

def isReferenceType (table : TypeTable) (id : TypeId) : Bool := (table.shape? id).any (·.isReferenceType)

/-- A value type whose layout is a plain block of bytes. -/
def isRawLayout (table : TypeTable) (id : TypeId) : Bool :=
  (table.get? id).any fun info => info.shape.isValueType && info.rawLayout

/-- Size in bytes; that of an enumeration is the size of the type it counts in. -/
def sizeInBytes (table : TypeTable) (id : TypeId) : Nat :=
  match table.get? ((table.underlying? id).getD id) with
  | some info => info.size
  | none => 0

/-- Whether the cast syntax of the legacy dialects takes the type. -/
def isLegacyCastable (table : TypeTable) (id : TypeId) : Bool :=
  table.isIntegral id || table.isPointer id || table.isNativeInteger id || table.isValueType id

end DialectBinder.TypeTable
