import DialectBinder.Bounds
import DialectBinder.Expr.Basic

/-! All expressions of a compilation unit. They are added bottom up, an expression adopts its
operands when it is added, and none is adopted twice. -/

namespace DialectBinder

structure ExprArena where
  nodes : Array Expr := #[]

namespace ExprArena

def size (arena : ExprArena) : Nat := arena.nodes.size

def get? (arena : ExprArena) (id : ExprId) : Option Expr := arena.nodes[id.index]?

def nextId (arena : ExprArena) : ExprId := ⟨arena.size⟩

/-- Make `parent` the parent of the operands that exist. -/
def adopt (parent : ExprId) : List ExprId → Array Expr → Except Fault (Array Expr)
  | [], nodes => .ok nodes
  | child :: rest, nodes =>
      match nodes[child.index]? with
      | none => adopt parent rest nodes
      | some node =>
          if node.parent.isSome then .error (.adoptedTwice child)
          else adopt parent rest (nodes.modify child.index fun node => { node with parent := some parent })

/-- Add an expression, under `nextId`. -/
def add (arena : ExprArena) (kind : ExprKind) (type : TypeId) (span : Span) (generated : Bool) :
    Except Fault ExprArena := do
  let adopted ← adopt arena.nextId kind.children arena.nodes
  return ⟨adopted.push { kind, type, span, generated }⟩

def kind? (arena : ExprArena) (id : ExprId) : Option ExprKind := (arena.get? id).map (·.kind)

/-- The static type; the error type if there is no such expression. -/
def typeOf (arena : ExprArena) (id : ExprId) : TypeId :=
  match arena.get? id with
  | some node => node.type
  | none => .error

/-- The source text; none if there is no such expression. -/
def spanOf (arena : ExprArena) (id : ExprId) : Span :=
  match arena.get? id with
  | some node => node.span
  | none => .dummy

def parent? (arena : ExprArena) (id : ExprId) : Option ExprId := (arena.get? id).bind (·.parent)

def isLiteral (arena : ExprArena) (id : ExprId) : Bool :=
  match arena.kind? id with
  | some (.literal _) => true
  | _ => false

def isNullLiteral (arena : ExprArena) (id : ExprId) : Bool := arena.kind? id == some (.literal .null)

def isAddressable (arena : ExprArena) (id : ExprId) : Bool :=
  match arena.kind? id with
  | some (.variableAccess _) => true
  | _ => false

def isConditional (arena : ExprArena) (id : ExprId) : Bool :=
  match arena.kind? id with
  | some (.conditional _ _ _) => true
  | _ => false

def isLambda (arena : ExprArena) (id : ExprId) : Bool :=
  match arena.kind? id with
  | some (.lambda _ _) => true
  | _ => false

/-- Whether the expression is the operand of a legacy cast. -/
def isLegacyCastOperand (arena : ExprArena) (id : ExprId) : Bool :=
  match (arena.parent? id).bind arena.kind? with
  | some (.legacyCast _) => true
  | _ => false

/-- The constant that an expression is, seen through fewer than `steps` implicit conversions. -/
def constantWithin (arena : ExprArena) : Nat → ExprId → Option Constant
  | 0, _ => none
  | steps + 1, id =>
      match arena.kind? id with
      | some (.literal value) => some value
      | some (.conversion operand false) => arena.constantWithin steps operand
      | _ => none

def constant? (arena : ExprArena) (id : ExprId) : Option Constant := arena.constantWithin maxConversionSteps id

/-- Whether the expression, or one it wraps in fewer than `steps` conversions, is generated. -/
def generatedWithin (arena : ExprArena) : Nat → ExprId → Bool
  | 0, _ => false
  | steps + 1, id =>
      match arena.get? id with
      | none => false
      | some node =>
          node.generated || match node.kind with
            | .conversion operand _ => arena.generatedWithin steps operand
            | _ => false

/-- Whether advice on the expression is withheld. -/
def suppressesWarnings (arena : ExprArena) (id : ExprId) : Bool := arena.generatedWithin maxConversionSteps id

/-- The assignment whose value the expression is, seen through fewer than `steps` conversions. -/
def assignmentWithin (arena : ExprArena) : Nat → ExprId → Option ExprId
  | 0, _ => none
  | steps + 1, id =>
      match arena.parent? id with
      | none => none
      | some parent =>
          match arena.kind? parent with
          | some (.conversion _ _) => arena.assignmentWithin steps parent
          | some (.assignment _ value) => if value == id then some parent else none
          | _ => none

def enclosingAssignment? (arena : ExprArena) (id : ExprId) : Option ExprId :=
  arena.assignmentWithin maxConversionSteps id

end ExprArena

end DialectBinder
