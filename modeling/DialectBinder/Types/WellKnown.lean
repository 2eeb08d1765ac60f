import DialectBinder.Types.Basic

/-! The types that every table starts with, each at its fixed identity. -/

namespace DialectBinder

namespace TypeId

def error : TypeId := ⟨0⟩
def object : TypeId := ⟨1⟩
def logic : TypeId := ⟨2⟩
def char : TypeId := ⟨3⟩
def sbyte : TypeId := ⟨4⟩
def byte : TypeId := ⟨5⟩
def short : TypeId := ⟨6⟩
def word : TypeId := ⟨7⟩
def long : TypeId := ⟨8⟩
def dword : TypeId := ⟨9⟩
def int64 : TypeId := ⟨10⟩
def uint64 : TypeId := ⟨11⟩
def intPtr : TypeId := ⟨12⟩
def uintPtr : TypeId := ⟨13⟩
def real4 : TypeId := ⟨14⟩
def real8 : TypeId := ⟨15⟩
def decimal : TypeId := ⟨16⟩
def string : TypeId := ⟨17⟩
def void : TypeId := ⟨18⟩
def dateTime : TypeId := ⟨19⟩
def usual : TypeId := ⟨20⟩
def psz : TypeId := ⟨21⟩
def float : TypeId := ⟨22⟩
def date : TypeId := ⟨23⟩
def symbol : TypeId := ⟨24⟩
def currency : TypeId := ⟨25⟩
def codeblock : TypeId := ⟨26⟩
def array : TypeId := ⟨27⟩
def voidPointer : TypeId := ⟨28⟩
def usualArray : TypeId := ⟨29⟩
def objectArray : TypeId := ⟨30⟩
def formatProvider : TypeId := ⟨31⟩
/-- The type of the `NULL` literal. -/
def null : TypeId := ⟨32⟩

/-- The number of well-known types, and so the first identity of a user type. -/
def firstUser : Nat := 33

def isWellKnown (id : TypeId) : Bool := id.index < firstUser

end TypeId

namespace TypeInfo

def ofPrimitive (name : String) (primitive : Primitive) (size : Nat) : TypeInfo :=
  { name, shape := .structType, primitive := some primitive, size }

def ofLegacy (name : String) (legacy : LegacyType) (size : Nat) : TypeInfo :=
  { name, shape := .structType, legacy := some legacy, size }

def pointer (name : String) (pointee : TypeId) (size : Nat) : TypeInfo :=
  { name, shape := .pointerTo pointee, size }

def array (name : String) (element : TypeId) : TypeInfo :=
  { name, shape := .arrayOf element, base := some .object }

/-- The dynamic type of the legacy runtime, with its implicit operators. Their symbols stand at the
end of the symbol identities, below the absent one. -/
def usual : TypeInfo where
  name := "USUAL"
  shape := .structType
  legacy := some .usual
  size := 16
  operators :=
    [(1, .object), (2, .logic), (3, .long), (4, .int64), (5, .real8), (6, .string), (7, .date), (8, .float),
      (9, .symbol)].map fun (place, parameter) => ⟨⟨SymbolId.absent.index - place⟩, parameter, .usual, true⟩

end TypeInfo

/-- The well-known types for pointers of a size, in the order of their identities. -/
def wellKnownTypes (pointerSize : Nat) : Array TypeInfo := #[
  { name := "<error>", shape := .errorType },
  { name := "OBJECT", shape := .classType, primitive := some .object },
  .ofPrimitive "LOGIC" .boolean 1,
  .ofPrimitive "CHAR" .char 2,
  .ofPrimitive "SBYTE" .sbyte 1,
  .ofPrimitive "BYTE" .byte 1,
  .ofPrimitive "SHORT" .int16 2,
  .ofPrimitive "WORD" .uint16 2,
  .ofPrimitive "LONG" .int32 4,
  .ofPrimitive "DWORD" .uint32 4,
  .ofPrimitive "INT64" .int64 8,
  .ofPrimitive "UINT64" .uint64 8,
  .ofPrimitive "IntPtr" .intPtr pointerSize,
  .ofPrimitive "UIntPtr" .uintPtr pointerSize,
  .ofPrimitive "REAL4" .single 4,
  .ofPrimitive "REAL8" .double 8,
  .ofPrimitive "DECIMAL" .decimal 16,
  { name := "STRING", shape := .classType, primitive := some .string, base := some .object },
  .ofPrimitive "VOID" .void 0,
  .ofPrimitive "DateTime" .dateTime 8,
  .usual,
  .ofLegacy "PSZ" .psz pointerSize,
  .ofLegacy "FLOAT" .float 16,
  .ofLegacy "DATE" .date 4,
  .ofLegacy "SYMBOL" .symbol 4,
  .ofLegacy "CURRENCY" .currency 8,
  { name := "CODEBLOCK", shape := .classType, legacy := some .codeblock, base := some .object },
  { name := "ARRAY", shape := .classType, legacy := some .array, base := some .object },
  .pointer "VOID*" .void pointerSize,
  .array "USUAL[]" .usual,
  .array "OBJECT[]" .object,
  { name := "IFormatProvider", shape := .interfaceType },
  { name := "NULL", shape := .nullType }]

end DialectBinder
