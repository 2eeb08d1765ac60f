import DialectBinder.Span
import DialectBinder.Symbol.NameTable

/-! Declared symbols: what a declaration says, and what its place adds to it. -/

namespace DialectBinder

/-- A set of traits of a symbol, one bit each. -/
structure SymbolFlags where
  bits : UInt32
deriving DecidableEq, Repr

namespace SymbolFlags

def namespaceScope : SymbolFlags := ⟨0x1⟩
def classType : SymbolFlags := ⟨0x2⟩
def structType : SymbolFlags := ⟨0x4⟩
def interfaceType : SymbolFlags := ⟨0x8⟩
def enumType : SymbolFlags := ⟨0x10⟩
def delegateType : SymbolFlags := ⟨0x20⟩
def method : SymbolFlags := ⟨0x40⟩
def constructor : SymbolFlags := ⟨0x80⟩
def operator : SymbolFlags := ⟨0x100⟩
def field : SymbolFlags := ⟨0x200⟩
def property : SymbolFlags := ⟨0x400⟩
def localVariable : SymbolFlags := ⟨0x800⟩
def parameter : SymbolFlags := ⟨0x1000⟩
def static : SymbolFlags := ⟨0x2000⟩
/-- A variable, field or property whose value can be called. -/
def invocableValue : SymbolFlags := ⟨0x4000⟩

def union (left right : SymbolFlags) : SymbolFlags := ⟨left.bits ||| right.bits⟩

def intersects (left right : SymbolFlags) : Bool := left.bits &&& right.bits != 0

def anyType : SymbolFlags :=
  (((classType.union structType).union interfaceType).union enumType).union delegateType

def namespaceOrType : SymbolFlags := namespaceScope.union anyType

def anyMember : SymbolFlags :=
  (((method.union constructor).union operator).union field).union property

end SymbolFlags

inductive Accessibility where
  | publicAccess
  | internalAccess
  | protectedAccess
  | privateAccess
deriving DecidableEq, Repr

namespace Accessibility

def text : Accessibility → String
  | publicAccess => "public"
  | internalAccess => "internal"
  | protectedAccess => "protected"
  | privateAccess => "private"

def ofText? (text : String) : Option Accessibility :=
  [publicAccess, internalAccess, protectedAccess, privateAccess].find? fun access =>
    access.text == text

end Accessibility

structure Declaration where
  name : String
  flags : SymbolFlags
  accessibility : Accessibility := .publicAccess
  assembly : AssemblyId := .current
  /-- Number of generic type parameters. -/
  arity : Nat := 0
  /-- Base type of a type. -/
  base : Option SymbolId := none
  span : Span := .dummy
deriving DecidableEq, Repr

structure Symbol extends Declaration where
  /-- The container it is declared in. -/
  parent : Option SymbolId := none
  members : NameTable := {}
deriving DecidableEq, Repr

/-- A declaration makes a symbol outside any container and without members. -/
instance : Coe Declaration Symbol := ⟨fun declaration => { toDeclaration := declaration }⟩

namespace Declaration

def isMethod (symbol : Declaration) : Bool := symbol.flags.intersects .method

def isStatic (symbol : Declaration) : Bool := symbol.flags.intersects .static

def isField (symbol : Declaration) : Bool := symbol.flags.intersects .field

def isType (symbol : Declaration) : Bool := symbol.flags.intersects .anyType

def isNamespace (symbol : Declaration) : Bool := symbol.flags.intersects .namespaceScope

def isNamespaceOrType (symbol : Declaration) : Bool := symbol.flags.intersects .namespaceOrType

def isInvocable (symbol : Declaration) : Bool :=
  symbol.flags.intersects (.union .method .invocableValue)

/-- A member that is not static. -/
def isInstanceMember (symbol : Declaration) : Bool :=
  symbol.flags.intersects .anyMember && !symbol.isStatic

def isStaticMethod (symbol : Declaration) : Bool := symbol.isMethod && symbol.isStatic

end Declaration

/-- Members of that name, in declaration order. -/
def Symbol.membersNamed (symbol : Symbol) (name : String) : List SymbolId :=
  symbol.members.named name

end DialectBinder
