import DialectBinder.Expr.Basic

/-! Callable members as overload resolution sees them. -/

namespace DialectBinder

/-- How an argument reaches its parameter. -/
inductive Passing where
  | byValue
  | byRef
  | byOut
  | byIn
deriving DecidableEq, Repr

namespace Passing

def name : Passing → String
  | byValue => "None"
  | byRef => "Ref"
  | byOut => "Out"
  | byIn => "In"

def named? (name : String) : Option Passing := [byValue, byRef, byOut, byIn].find? fun passing => passing.name == name

/-- Whether the parameter gets an address. -/
def isByReference (passing : Passing) : Bool := passing != byValue

end Passing

structure Parameter where
  type : TypeId
  passing : Passing := .byValue
  /-- A parameter array at the end of the list, which takes any number of arguments. -/
  variadic : Bool := false
deriving DecidableEq, Repr

inductive MemberKind where
  | method
  | constructor
  | binaryOperator (op : BinaryOp)
deriving DecidableEq, Repr

def MemberKind.isOperator : MemberKind → Bool
  | binaryOperator _ => true
  | _ => false

def MemberKind.text : MemberKind → String
  | method => "Method"
  | constructor => "Constructor"
  | binaryOperator op => s!"BinaryOperator({op.name})"

structure Member where
  symbol : SymbolId
  name : String
  /-- Name of the declaring type. -/
  container : String
  parameters : List Parameter := []
  returnType : TypeId := .void
  kind : MemberKind := .method
  assembly : AssemblyId := .current
  isStatic : Bool := false
deriving DecidableEq, Repr

namespace Member

/-- A static operator on two operands. -/
def ofOperator (symbol : SymbolId) (op : BinaryOp) (container : String) (left right result : TypeId) : Member :=
  { symbol, name := "operator " ++ op.symbol, container, parameters := [{ type := left }, { type := right }],
    returnType := result, kind := .binaryOperator op, isStatic := true }

/-- The parameter array at the end of the list. -/
def variadicTail? (member : Member) : Option Parameter := member.parameters.getLast?.filter (·.variadic)

/-- Append a parameter; nothing follows a parameter array. -/
def addParameter (member : Member) (parameter : Parameter) : Except Fault Member :=
  if member.variadicTail?.isSome then .error .parameterAfterVariadic
  else .ok { member with parameters := member.parameters ++ [parameter] }

def parameterType? (member : Member) (position : Nat) : Option TypeId :=
  member.parameters[position]?.map (·.type)

/-- The operand types of an operator on two operands. -/
def operands? (member : Member) : Option (TypeId × TypeId) :=
  match member.kind.isOperator, member.parameters with
  | true, [left, right] => some (left.type, right.type)
  | _, _ => none

end Member

/-- The members of callable symbols, in the order they were first entered. -/
structure SignatureTable where
  members : List Member := []

namespace SignatureTable

/-- The members after one of them has been entered, in place of an earlier one of its symbol. -/
def enter (member : Member) : List Member → List Member
  | [] => [member]
  | other :: rest => if other.symbol == member.symbol then member :: rest else other :: enter member rest

def insert (table : SignatureTable) (member : Member) : SignatureTable := ⟨enter member table.members⟩

def get? (table : SignatureTable) (symbol : SymbolId) : Option Member :=
  table.members.find? fun member => member.symbol == symbol

/-- The members of symbols that have one, in the order of the symbols. -/
def candidates (table : SignatureTable) (symbols : List SymbolId) : List Member := symbols.filterMap table.get?

def size (table : SignatureTable) : Nat := table.members.length

end SignatureTable

end DialectBinder
