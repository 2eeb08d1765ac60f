import DialectBinder.Identity

/-! Types: their shapes, the tags of the built-in ones and the conversion operators they declare. -/

namespace DialectBinder

/-- A built-in type of the core language. -/
inductive Primitive where
  | object
  | boolean
  | char
  | sbyte
  | byte
  | int16
  | uint16
  | int32
  | uint32
  | int64
  | uint64
  | intPtr
  | uintPtr
  | single
  | double
  | decimal
  | string
  | void
  | dateTime
deriving DecidableEq, Repr

namespace Primitive

def name : Primitive → String
  | object => "Object"
  | boolean => "Boolean"
  | char => "Char"
  | sbyte => "SByte"
  | byte => "Byte"
  | int16 => "Int16"
  | uint16 => "UInt16"
  | int32 => "Int32"
  | uint32 => "UInt32"
  | int64 => "Int64"
  | uint64 => "UInt64"
  | intPtr => "IntPtr"
  | uintPtr => "UIntPtr"
  | single => "Single"
  | double => "Double"
  | decimal => "Decimal"
  | string => "String"
  | void => "Void"
  | dateTime => "DateTime"

/-- Integers wide as a pointer. -/
def isNativeInteger : Primitive → Bool
  | intPtr | uintPtr => true
  | _ => false

def isSignedIntegral : Primitive → Bool
  | sbyte | int16 | int32 | int64 | intPtr => true
  | _ => false

def isUnsignedIntegral : Primitive → Bool
  | byte | uint16 | uint32 | uint64 | uintPtr => true
  | _ => false

/-- Integers, native ones included; characters and truth values are none. -/
def isIntegral (primitive : Primitive) : Bool := primitive.isSignedIntegral || primitive.isUnsignedIntegral

def isFloating : Primitive → Bool
  | single | double => true
  | _ => false

def isNumeric (primitive : Primitive) : Bool :=
  primitive.isIntegral || primitive.isFloating || primitive == decimal

/-- Whether every value of one primitive is one of the other without a cast. -/
def widensTo : Primitive → Primitive → Bool
  | sbyte, target => [int16, int32, int64, single, double, decimal].contains target
  | byte, target => [int16, uint16, int32, uint32, int64, uint64, single, double, decimal].contains target
  | int16, target => [int32, int64, single, double, decimal].contains target
  | uint16, target | char, target => [int32, uint32, int64, uint64, single, double, decimal].contains target
  | int32, target => [int64, single, double, decimal].contains target
  | uint32, target => [int64, uint64, single, double, decimal].contains target
  | int64, target | uint64, target => [single, double, decimal].contains target
  | single, target => target == double
  | _, _ => false

end Primitive

/-- A built-in type of the legacy runtime. -/
inductive LegacyType where
  | usual
  | psz
  | float
  | date
  | symbol
  | currency
  | codeblock
  | array
deriving DecidableEq, Repr

def LegacyType.name : LegacyType → String
  | usual => "Usual"
  | psz => "Psz"
  | float => "Float"
  | date => "Date"
  | symbol => "Symbol"
  | currency => "Currency"
  | codeblock => "Codeblock"
  | array => "Array"

inductive TypeShape where
  | classType
  | structType
  | enumType (underlying : TypeId)
  | interfaceType
  | pointerTo (pointee : TypeId)
  | arrayOf (element : TypeId)
  | delegateType (parameters : Nat)
  | nullType
  | errorType
deriving DecidableEq, Repr

namespace TypeShape

/-- The shape in words, with what it is made of in parentheses. -/
def text : TypeShape → String
  | classType => "Class"
  | structType => "Struct"
  | enumType underlying => s!"Enum({underlying.index})"
  | interfaceType => "Interface"
  | pointerTo pointee => s!"Pointer({pointee.index})"
  | arrayOf element => s!"Array({element.index})"
  | delegateType parameters => s!"Delegate({parameters})"
  | nullType => "Null"
  | errorType => "Error"

def isValueType : TypeShape → Bool
  | structType | enumType _ => true
  | _ => false

def isReferenceType : TypeShape → Bool
  | classType | interfaceType | arrayOf _ | delegateType _ => true
  | _ => false

end TypeShape

/-- A user-defined conversion that a type declares. -/
structure ConversionOperator where
  symbol : SymbolId
  parameter : TypeId
  result : TypeId
  implicit : Bool
deriving DecidableEq, Repr

structure TypeInfo where
  name : String
  shape : TypeShape
  primitive : Option Primitive := none
  legacy : Option LegacyType := none
  /-- Size in bytes, zero where it means nothing. -/
  size : Nat := 0
  /-- The layout is a plain block of bytes. -/
  rawLayout : Bool := false
  base : Option TypeId := none
  interfaces : List TypeId := []
  operators : List ConversionOperator := []
deriving DecidableEq, Repr

end DialectBinder
