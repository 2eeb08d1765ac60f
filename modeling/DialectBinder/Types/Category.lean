import DialectBinder.Types.Predicate

/-! The coarse category of a type, on which the conversion rules match. -/

namespace DialectBinder

inductive TypeCategory where
  | boolean
  | char
  /-- An integer of fixed size in bytes. -/
  | integral (signed : Bool) (size : Nat)
  | nativeInteger (signed : Bool)
  | floating (size : Nat)
  | decimal
  | string
  | object
  | void
  | usual
  | psz
  | legacyFloat
  | legacyDate
  | legacySymbol
  | currency
  | enumType (underlying : TypeId)
  | pointer (pointee : TypeId)
  | array (element : TypeId)
  | delegate (parameters : Nat)
  | interfaceType
  /-- Any other class, that of code blocks and the legacy array class included. -/
  | classType
  /-- Any other structure. -/
  | structType (rawLayout : Bool)
  | null
  | error
  /-- The table does not know the type. -/
  | unknown
deriving DecidableEq, Repr

namespace TypeCategory

/-- The category in words, with its details in parentheses. -/
def text : TypeCategory → String
  | boolean => "Boolean"
  | char => "Char"
  | integral signed size => s!"Integral({signed},{size})"
  | nativeInteger signed => s!"NativeInteger({signed})"
  | floating size => s!"Floating({size})"
  | decimal => "Decimal"
  | string => "String"
  | object => "Object"
  | void => "Void"
  | usual => "Usual"
  | psz => "Psz"
  | legacyFloat => "LegacyFloat"
  | legacyDate => "LegacyDate"
  | legacySymbol => "LegacySymbol"
  | currency => "Currency"
  | enumType underlying => s!"Enum({underlying.index})"
  | pointer pointee => s!"Pointer({pointee.index})"
  | array element => s!"Array({element.index})"
  | delegate parameters => s!"Delegate({parameters})"
  | interfaceType => "Interface"
  | classType => "Class"
  | structType rawLayout => s!"Struct({rawLayout})"
  | null => "Null"
  | error => "Error"
  | unknown => "Unknown"

def isIntegral : TypeCategory → Bool
  | integral _ _ | nativeInteger _ => true
  | _ => false

def isNumeric : TypeCategory → Bool
  | integral _ _ | nativeInteger _ | floating _ | decimal => true
  | _ => false

/-- Values of the legacy runtime that convert through their operators. -/
def isLegacyValue : TypeCategory → Bool
  | usual | psz | legacyFloat | legacyDate | legacySymbol | currency => true
  | _ => false

end TypeCategory

namespace TypeInfo

/-- The category of a legacy tag; the two legacy classes count as classes. -/
def legacyCategory? : LegacyType → Option TypeCategory
  | .usual => some .usual
  | .psz => some .psz
  | .float => some .legacyFloat
  | .date => some .legacyDate
  | .symbol => some .legacySymbol
  | .currency => some .currency
  | .codeblock | .array => none

/-- The category of a primitive of a size; points in time count as structures. -/
def primitiveCategory? (size : Nat) : Primitive → Option TypeCategory
  | .boolean => some .boolean
  | .char => some .char
  | .sbyte | .int16 | .int32 | .int64 => some (.integral true size)
  | .byte | .uint16 | .uint32 | .uint64 => some (.integral false size)
  | .intPtr => some (.nativeInteger true)
  | .uintPtr => some (.nativeInteger false)
  | .single | .double => some (.floating size)
  | .decimal => some .decimal
  | .string => some .string
  | .object => some .object
  | .void => some .void
  | .dateTime => none

def shapeCategory (info : TypeInfo) : TypeCategory :=
  match info.shape with
  | .classType => .classType
  | .structType => .structType info.rawLayout
  | .enumType underlying => .enumType underlying
  | .interfaceType => .interfaceType
  | .pointerTo pointee => .pointer pointee
  | .arrayOf element => .array element
  | .delegateType parameters => .delegate parameters
  | .nullType => .null
  | .errorType => .error

/-- The legacy tag decides, then the primitive tag, then the shape. -/
def category (info : TypeInfo) : TypeCategory :=
  ((info.legacy.bind legacyCategory?).or (info.primitive.bind (primitiveCategory? info.size))).getD
    info.shapeCategory

end TypeInfo

def TypeTable.category (table : TypeTable) (id : TypeId) : TypeCategory :=
  match table.get? id with
  | some info => info.category
  | none => .unknown

end DialectBinder
