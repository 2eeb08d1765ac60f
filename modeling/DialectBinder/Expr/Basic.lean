import DialectBinder.Span
import DialectBinder.Types.WellKnown

/-! Bound expressions. -/

namespace DialectBinder

inductive Constant where
  | null
  | bool (value : Bool)
  | char (value : Char)
  | int (value : Int64)
  | uint (value : UInt64)
  /-- A floating-point number by its 64 bits. -/
  | float (bits : UInt64)
  | string (value : String)
deriving DecidableEq, Repr

namespace Constant

/-- The number that an integral constant is. -/
def integral? : Constant → Option Int
  | int value => some value.toInt
  | uint value => some value.toNat
  | _ => none

end Constant

inductive BinaryOp where
  | add
  | subtract
  | multiply
  | divide
  | modulo
  | bitAnd
  | bitOr
  | bitXor
  | shiftLeft
  | shiftRight
  | equal
  | notEqual
  | less
  | lessEqual
  | greater
  | greaterEqual
  | and
  | or
deriving DecidableEq, Repr

namespace BinaryOp

/-- Operators whose result type follows the types of their operands. -/
def isArithmeticOrBitwise : BinaryOp → Bool
  | add | subtract | multiply | divide | modulo | bitAnd | bitOr | bitXor | shiftLeft | shiftRight => true
  | _ => false

def all : List BinaryOp := [add, subtract, multiply, divide, modulo, bitAnd, bitOr, bitXor, shiftLeft, shiftRight,
  equal, notEqual, less, lessEqual, greater, greaterEqual, and, or]

def name : BinaryOp → String
  | add => "Add"
  | subtract => "Subtract"
  | multiply => "Multiply"
  | divide => "Divide"
  | modulo => "Modulo"
  | bitAnd => "BitAnd"
  | bitOr => "BitOr"
  | bitXor => "BitXor"
  | shiftLeft => "ShiftLeft"
  | shiftRight => "ShiftRight"
  | equal => "Equal"
  | notEqual => "NotEqual"
  | less => "Less"
  | lessEqual => "LessEqual"
  | greater => "Greater"
  | greaterEqual => "GreaterEqual"
  | and => "And"
  | or => "Or"

def named? (name : String) : Option BinaryOp := all.find? fun op => op.name == name

def symbol : BinaryOp → String
  | add => "+"
  | subtract => "-"
  | multiply => "*"
  | divide => "/"
  | modulo => "%"
  | bitAnd => "&"
  | bitOr => "|"
  | bitXor => "~"
  | shiftLeft => "<<"
  | shiftRight => ">>"
  | equal => "=="
  | notEqual => "!="
  | less => "<"
  | lessEqual => "<="
  | greater => ">"
  | greaterEqual => ">="
  | and => ".AND."
  | or => ".OR."

end BinaryOp

inductive UnaryOp where
  | negate
  | not
  | bitNot
deriving DecidableEq, Repr

namespace UnaryOp

def name : UnaryOp → String
  | negate => "Negate"
  | not => "Not"
  | bitNot => "BitNot"

def named? (name : String) : Option UnaryOp := [negate, not, bitNot].find? fun op => op.name == name

end UnaryOp

inductive ExprKind where
  | literal (value : Constant)
  /-- Storage with an address: a local, parameter, field or global. -/
  | variableAccess (symbol : Option SymbolId)
  | binary (op : BinaryOp) (left right : ExprId)
  | unary (op : UnaryOp) (operand : ExprId)
  | conditional (condition whenTrue whenFalse : ExprId)
  | conversion (operand : ExprId) (explicit : Bool)
  /-- The cast syntax of the legacy dialects. -/
  | legacyCast (operand : ExprId)
  | assignment (target value : ExprId)
  | call (arguments : List ExprId)
  | lambda (parameters : Nat) (typed : Bool)
deriving DecidableEq, Repr

/-- The operands, in order. -/
def ExprKind.children : ExprKind → List ExprId
  | literal _ | variableAccess _ | lambda _ _ => []
  | binary _ left right => [left, right]
  | unary _ operand | conversion operand _ | legacyCast operand => [operand]
  | conditional condition whenTrue whenFalse => [condition, whenTrue, whenFalse]
  | assignment target value => [target, value]
  | call arguments => arguments

structure Expr where
  kind : ExprKind
  /-- The static type. -/
  type : TypeId
  span : Span := .dummy
  /-- Made by the compiler, so that it causes no advice. -/
  generated : Bool := false
  parent : Option ExprId := none
deriving DecidableEq, Repr

end DialectBinder
