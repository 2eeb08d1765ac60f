import DialectBinder.Expr.Arena
import DialectBinder.Types.Predicate

/-! The widest operand of an arithmetic expression. The sum of two bytes has the static type `LONG`,
and still fits a byte as far as the legacy dialects care: what counts is what went into it. -/

namespace DialectBinder

/-- The smallest unsigned type that holds a number of at most 64 bits. -/
def naturalUnsigned (value : Nat) : TypeId :=
  if value < 0x100 then .byte
  else if value < 0x10000 then .word
  else if value < 0x100000000 then .dword
  else .uint64

/-- The smallest signed type that holds a negative number of at most 64 bits. -/
def naturalSigned (value : Int) : TypeId :=
  if -0x80 ≤ value then .sbyte
  else if -0x8000 ≤ value then .short
  else if -0x80000000 ≤ value then .long
  else .int64

/-- The smallest type that holds an integral constant, unsigned unless the constant is negative. -/
def Constant.naturalType? (constant : Constant) : Option TypeId :=
  constant.integral?.map fun value => if 0 ≤ value then naturalUnsigned value.toNat else naturalSigned value

/-- The type of the widest operand within `depth` levels of arithmetic operators and implicit
conversions; of equally wide ones the leftmost. -/
def largestOperandWithin (types : TypeTable) (exprs : ExprArena) : Nat → ExprId → TypeId
  | 0, id => exprs.typeOf id
  | depth + 1, id =>
      match exprs.kind? id with
      | some (.binary op left right) =>
          if op.isArithmeticOrBitwise then
            let leftType := largestOperandWithin types exprs depth left
            let rightType := largestOperandWithin types exprs depth right
            if types.sizeInBytes leftType < types.sizeInBytes rightType then rightType else leftType
          else exprs.typeOf id
      | some (.literal value) => value.naturalType?.getD (exprs.typeOf id)
      | some (.conversion operand false) => largestOperandWithin types exprs depth operand
      | _ => exprs.typeOf id

def largestOperand (types : TypeTable) (exprs : ExprArena) (id : ExprId) : TypeId :=
  largestOperandWithin types exprs maxOperandDepth id

end DialectBinder
