import DialectBinder.Types.WellKnown

/-! The table of types. A type never changes once it is there, and a type of the same name and
shape is not entered twice, so that equal identities mean equal types. -/

namespace DialectBinder

/-- The shapes that a program can declare. -/
inductive DeclaredShape where
  | classType
  | structType (size : Nat)
  | enumType (underlying : TypeId)
  | interfaceType
  | delegateType (parameters : Nat)
deriving DecidableEq, Repr

namespace DeclaredShape

def toShape : DeclaredShape → TypeShape
  | classType => .classType
  | structType _ => .structType
  | enumType underlying => .enumType underlying
  | interfaceType => .interfaceType
  | delegateType parameters => .delegateType parameters

def size : DeclaredShape → Nat
  | structType size => size
  | _ => 0

/-- Classes and delegates derive from `OBJECT` unless they say otherwise. -/
def defaultBase : DeclaredShape → Option TypeId
  | classType | delegateType _ => some .object
  | _ => none

end DeclaredShape

/-- A user type as its declaration describes it. -/
structure TypeDeclaration where
  name : String
  shape : DeclaredShape
  base : Option TypeId := none
  interfaces : List TypeId := []
  rawLayout : Bool := false
  operators : List ConversionOperator := []
deriving DecidableEq, Repr

def TypeDeclaration.toInfo (declaration : TypeDeclaration) : TypeInfo where
  name := declaration.name
  shape := declaration.shape.toShape
  size := declaration.shape.size
  rawLayout := declaration.rawLayout
  base := declaration.base.or declaration.shape.defaultBase
  interfaces := declaration.interfaces.eraseDups
  operators := declaration.operators

/-- What a type is found by. -/
structure TypeKey where
  name : String
  shape : TypeShape
deriving DecidableEq, Repr

def TypeInfo.key (info : TypeInfo) : TypeKey := ⟨info.name, info.shape⟩

structure TypeTable where
  entries : Array TypeInfo
  /-- The identities by key, the newest first; of several for one key the first counts. -/
  keys : List (TypeKey × TypeId)
  /-- Pointer width of the platform, in bytes. -/
  pointerSize : Nat

namespace TypeTable

def size (table : TypeTable) : Nat := table.entries.size

def get? (table : TypeTable) (id : TypeId) : Option TypeInfo := table.entries[id.index]?

def name (table : TypeTable) (id : TypeId) : String :=
  match table.get? id with
  | some info => info.name
  | none => "<unknown>"

/-- The type of a name and a shape. -/
def lookup? (table : TypeTable) (name : String) (shape : TypeShape) : Option TypeId :=
  table.keys.lookup ⟨name, shape⟩

/-- The table with one more type at its end, whether its key is there already or not. -/
def push (table : TypeTable) (info : TypeInfo) : TypeTable :=
  { table with entries := table.entries.push info, keys := (info.key, ⟨table.size⟩) :: table.keys }

/-- The table of the well-known types alone. -/
def ofPointerSize (pointerSize : Nat) : TypeTable where
  entries := wellKnownTypes pointerSize
  keys :=
    (wellKnownTypes pointerSize).toList.zipIdx.reverse.map fun (info, index) => (info.key, ⟨index⟩)
  pointerSize

/-- The table with the type in it, and its identity: the one it has already, or the next one. -/
def intern (table : TypeTable) (info : TypeInfo) : TypeTable × TypeId :=
  match table.lookup? info.name info.shape with
  | some id => (table, id)
  | none => (table.push info, ⟨table.size⟩)

def register (table : TypeTable) (declaration : TypeDeclaration) : TypeTable × TypeId :=
  table.intern declaration.toInfo

/-- The type of pointers to a type. -/
def pointerTo (table : TypeTable) (pointee : TypeId) : TypeTable × TypeId :=
  table.intern (.pointer (table.name pointee ++ "*") pointee table.pointerSize)

/-- The type of arrays of a type. -/
def arrayOf (table : TypeTable) (element : TypeId) : TypeTable × TypeId :=
  table.intern (.array (table.name element ++ "[]") element)

end TypeTable

end DialectBinder
