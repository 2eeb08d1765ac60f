import Mathlib.Logic.Function.Iterate
import DialectBinder.Proofs.RuleCascade

/-! What an arithmetic expression is made of. Going down through operators and implicit conversions
leads to its leaves, and the type that decides on its width is that of the first leaf that no other
is wider than. -/

namespace DialectBinder

/-- An expression that going down from another one has led to, and how many levels down it is. -/
structure OperandLeaf where
  expr : ExprId
  depth : Nat
deriving DecidableEq, Repr

namespace ExprArena

variable (exprs : ExprArena)

/-- The operands that stand for an expression: both of an arithmetic operator, and what an implicit
conversion converts. -/
def innerOperands (id : ExprId) : List ExprId :=
  match exprs.kind? id with
  | some (.binary op left right) => if op.isArithmeticOrBitwise then [left, right] else []
  | some (.conversion operand false) => [operand]
  | _ => []

/-- One level down from an expression; where nothing stands for it, it stays. -/
def descend (leaf : OperandLeaf) : List OperandLeaf :=
  if (exprs.innerOperands leaf.expr).isEmpty then [leaf]
  else (exprs.innerOperands leaf.expr).map (⟨·, leaf.depth + 1⟩)

def descendAll (leaves : List OperandLeaf) : List OperandLeaf := leaves.flatMap exprs.descend

/-- The leaves of an expression, in order. The descent stops at the greatest depth, whatever is
there. -/
def operandLeaves (id : ExprId) : List OperandLeaf := exprs.descendAll^[maxOperandDepth] [⟨id, 0⟩]

/-- The type that a leaf counts as: its own, and for an integral literal above the greatest depth
the smallest type that holds it. -/
def leafType (leaf : OperandLeaf) : TypeId :=
  match exprs.kind? leaf.expr with
  | some (.literal value) =>
      if leaf.depth < maxOperandDepth then value.naturalType?.getD (exprs.typeOf leaf.expr)
      else exprs.typeOf leaf.expr
  | _ => exprs.typeOf leaf.expr

def operandTypes (id : ExprId) : List TypeId := (exprs.operandLeaves id).map exprs.leafType

variable {exprs}

theorem iterate_descendAll_append (levels : Nat) (first second : List OperandLeaf) :
    exprs.descendAll^[levels] (first ++ second) =
      exprs.descendAll^[levels] first ++ exprs.descendAll^[levels] second := by
  induction levels generalizing first second with
  | zero => rfl
  | succ levels ih => simp only [Function.iterate_succ_apply, descendAll, List.flatMap_append, ih]

theorem iterate_descendAll_of_leaf {leaf : OperandLeaf} (last : exprs.innerOperands leaf.expr = [])
    (levels : Nat) :
    exprs.descendAll^[levels] [leaf] = [leaf] :=
  Function.iterate_fixed (by simp [descendAll, descend, last]) levels

/-- The leaves of an expression are those of the operands that stand for it. -/
theorem iterate_descendAll_succ {id first : ExprId} {rest : List ExprId}
    (inner : exprs.innerOperands id = first :: rest) (levels depth : Nat) :
    exprs.descendAll^[levels + 1] [⟨id, depth⟩] =
      exprs.descendAll^[levels] ((first :: rest).map (⟨·, depth + 1⟩)) := by
  simp [Function.iterate_succ_apply, descendAll, descend, inner]

end ExprArena

/-- All that the search for the widest operand does with an expression above the greatest depth. -/
theorem largestOperandWithin_cases (types : TypeTable) (exprs : ExprArena)
    (levels : Nat) (id : ExprId) :
    (exprs.innerOperands id = [] ∧ ∀ depth < maxOperandDepth,
      largestOperandWithin types exprs (levels + 1) id = exprs.leafType ⟨id, depth⟩) ∨
    (∃ operand, exprs.innerOperands id = [operand] ∧
      largestOperandWithin types exprs (levels + 1) id =
        largestOperandWithin types exprs levels operand) ∨
    ∃ left right, exprs.innerOperands id = [left, right] ∧
      largestOperandWithin types exprs (levels + 1) id =
        if types.sizeInBytes (largestOperandWithin types exprs levels left) <
            types.sizeInBytes (largestOperandWithin types exprs levels right)
        then largestOperandWithin types exprs levels right
        else largestOperandWithin types exprs levels left := by
  simp only [largestOperandWithin, ExprArena.innerOperands, ExprArena.leafType]
  cases exprs.kind? id with
  | none => exact .inl ⟨rfl, fun _ _ => rfl⟩
  | some kind =>
    cases kind with
    | binary op left right =>
      dsimp only
      cases op.isArithmeticOrBitwise with
      | true => exact .inr (.inr ⟨left, right, rfl, rfl⟩)
      | false => exact .inl ⟨rfl, fun _ _ => rfl⟩
    | conversion operand explicit =>
      cases explicit with
      | true => exact .inl ⟨rfl, fun _ _ => rfl⟩
      | false => exact .inr (.inl ⟨operand, rfl, rfl⟩)
    | literal value => exact .inl ⟨rfl, fun _ above => (if_pos above).symm⟩
    | variableAccess _ | unary _ _ | conditional _ _ _ | legacyCast _
    | assignment _ _ | call _ | lambda _ _ =>
      exact .inl ⟨rfl, fun _ _ => rfl⟩

namespace TypeTable

/-- A type of the list that is wider than all before it and at least as wide as all after it. -/
def LeftmostWidest (types : TypeTable) (operands : List TypeId) (widest : TypeId) : Prop :=
  ∃ before after, operands = before ++ widest :: after ∧
    (∀ earlier ∈ before, types.sizeInBytes earlier < types.sizeInBytes widest) ∧
    ∀ later ∈ after, types.sizeInBytes later ≤ types.sizeInBytes widest

namespace LeftmostWidest

variable {types : TypeTable} {operands left right : List TypeId} {widest other : TypeId}

theorem single (operand : TypeId) : types.LeftmostWidest [operand] operand :=
  ⟨[], [], rfl, by simp, by simp⟩

theorem mem (first : types.LeftmostWidest operands widest) : widest ∈ operands := by
  obtain ⟨before, after, rfl, _⟩ := first
  simp

theorem size_le (first : types.LeftmostWidest operands widest) {operand : TypeId}
    (member : operand ∈ operands) :
    types.sizeInBytes operand ≤ types.sizeInBytes widest := by
  obtain ⟨before, after, rfl, narrower, noWider⟩ := first
  rcases List.mem_append.mp member with earlier | member
  · exact Nat.le_of_lt (narrower operand earlier)
  · rcases List.mem_cons.mp member with rfl | later
    · exact Nat.le_refl _
    · exact noWider operand later

/-- On the left it is enough not to be narrower. -/
theorem append_left (first : types.LeftmostWidest left widest)
    (second : types.LeftmostWidest right other)
    (enough : types.sizeInBytes other ≤ types.sizeInBytes widest) :
    types.LeftmostWidest (left ++ right) widest := by
  obtain ⟨before, after, rfl, narrower, noWider⟩ := first
  refine ⟨before, after ++ right, by simp, narrower, ?_⟩
  intro later member
  rcases List.mem_append.mp member with member | member
  · exact noWider later member
  · exact Nat.le_trans (second.size_le member) enough

/-- On the right one has to be wider. -/
theorem append_right (first : types.LeftmostWidest left other)
    (second : types.LeftmostWidest right widest)
    (wider : types.sizeInBytes other < types.sizeInBytes widest) :
    types.LeftmostWidest (left ++ right) widest := by
  obtain ⟨before, after, rfl, narrower, noWider⟩ := second
  refine ⟨left ++ before, after, by simp, ?_, noWider⟩
  intro earlier member
  rcases List.mem_append.mp member with member | member
  · exact Nat.lt_of_le_of_lt (first.size_le member) wider
  · exact narrower earlier member

theorem unique (first : types.LeftmostWidest operands widest)
    (second : types.LeftmostWidest operands other) :
    widest = other := by
  have sizes : types.sizeInBytes widest = types.sizeInBytes other :=
    Nat.le_antisymm (second.size_le first.mem) (first.size_le second.mem)
  obtain ⟨before, after, split, narrower, _⟩ := first
  obtain ⟨lead, rest, rfl, earlierNarrower, _⟩ := second
  -- Were the places different, the one further left would be among what is narrower than the other.
  rcases List.append_eq_append_iff.mp split with ⟨gap, rfl, tail⟩ | ⟨gap, rfl, tail⟩
  · cases gap with
    | nil => exact (List.cons.inj tail).1.symm
    | cons head gap =>
      obtain ⟨rfl, _⟩ := List.cons.inj tail
      have less := narrower other (by simp)
      omega
  · cases gap with
    | nil => exact (List.cons.inj tail).1
    | cons head gap =>
      obtain ⟨rfl, _⟩ := List.cons.inj tail
      have less := earlierNarrower widest (by simp)
      omega

end LeftmostWidest

end TypeTable

/-- With as many levels to go as are left to the greatest depth, the search finds the leftmost
widest leaf. -/
theorem leftmostWidest_largestOperandWithin (types : TypeTable) (exprs : ExprArena)
    {levels depth : Nat} (left : depth + levels = maxOperandDepth) (id : ExprId) :
    types.LeftmostWidest ((exprs.descendAll^[levels] [⟨id, depth⟩]).map exprs.leafType)
      (largestOperandWithin types exprs levels id) := by
  induction levels generalizing depth id with
  | zero =>
    have cut : exprs.leafType ⟨id, depth⟩ = exprs.typeOf id := by
      have reached : ¬depth < maxOperandDepth := by omega
      simp only [ExprArena.leafType, reached, ↓reduceIte]
      split <;> rfl
    rw [Function.iterate_zero, id_eq, List.map_singleton, cut]
    exact .single _
  | succ levels ih =>
    have below : depth + 1 + levels = maxOperandDepth := by omega
    rcases largestOperandWithin_cases types exprs levels id with
      ⟨last, answer⟩ | ⟨operand, inner, answer⟩ | ⟨first, second, inner, answer⟩
    · rw [ExprArena.iterate_descendAll_of_leaf last, answer depth (by omega), List.map_singleton]
      exact .single _
    · rw [ExprArena.iterate_descendAll_succ inner, answer]
      exact ih below operand
    · rw [ExprArena.iterate_descendAll_succ inner, answer, List.map_cons, ← List.singleton_append,
        List.map_singleton, ExprArena.iterate_descendAll_append, List.map_append]
      split
      · rename_i wider
        exact .append_right (ih below first) (ih below second) wider
      · rename_i enough
        exact .append_left (ih below first) (ih below second) (Nat.le_of_not_lt enough)

theorem largestOperand_eq_iff {types : TypeTable} {exprs : ExprArena} {expr : ExprId}
    {widest : TypeId} :
    largestOperand types exprs expr = widest ↔
      types.LeftmostWidest (exprs.operandTypes expr) widest := by
  have found : types.LeftmostWidest (exprs.operandTypes expr) (largestOperand types exprs expr) :=
    leftmostWidest_largestOperandWithin types exprs (Nat.zero_add maxOperandDepth) expr
  constructor
  · rintro rfl
    exact found
  · exact found.unique

namespace Classifier

variable {classifier : Classifier} {query : ConversionQuery}

/-- No operand is wider than the target; where the leftmost widest one is as wide, it has the sign
of the target or signs do not count. -/
structure OperandsFit (classifier : Classifier) (operands : List TypeId)
    (target : TypeId) : Prop where
  noWider : ∀ operand ∈ operands,
    classifier.types.sizeInBytes operand ≤ classifier.types.sizeInBytes target
  sign : ∀ widest, classifier.types.LeftmostWidest operands widest →
    classifier.types.sizeInBytes widest = classifier.types.sizeInBytes target →
    classifier.types.isSignedIntegral widest = classifier.types.isSignedIntegral target ∨
      classifier.options.signedUnsigned = true

theorem operandFits_iff {operand target : TypeId} :
    classifier.operandFits operand target = true ↔
      classifier.types.sizeInBytes operand ≤ classifier.types.sizeInBytes target ∧
      (classifier.types.sizeInBytes operand = classifier.types.sizeInBytes target →
        classifier.types.isSignedIntegral operand = classifier.types.isSignedIntegral target ∨
          classifier.options.signedUnsigned = true) := by
  simp only [operandFits, Bool.or_eq_true, Bool.and_eq_true, beq_iff_eq, decide_eq_true_eq]
  constructor
  · rintro ((rfl | narrower) | ⟨same, sign⟩)
    · exact ⟨Nat.le_refl _, fun _ => .inl rfl⟩
    · exact ⟨Nat.le_of_lt narrower, fun same => absurd same (Nat.ne_of_lt narrower)⟩
    · exact ⟨Nat.le_of_eq same, fun _ => sign⟩
  · rintro ⟨noWider, sign⟩
    rcases Nat.lt_or_eq_of_le noWider with narrower | same
    · exact .inl (.inr narrower)
    · exact .inr ⟨same, sign same⟩

theorem operandFits_largestOperand_iff {expr : ExprId} {target : TypeId} :
    classifier.operandFits (largestOperand classifier.types classifier.exprs expr) target = true ↔
      classifier.OperandsFit (classifier.exprs.operandTypes expr) target := by
  have found :=
    largestOperand_eq_iff.mp (rfl : largestOperand classifier.types classifier.exprs expr = _)
  rw [operandFits_iff]
  constructor
  · rintro ⟨noWider, sign⟩
    refine ⟨fun operand member => Nat.le_trans (found.size_le member) noWider, ?_⟩
    intro widest first
    rw [← largestOperand_eq_iff.mpr first]
    exact sign
  · intro fits
    exact ⟨fits.noWider _ found.mem, fits.sign _ found⟩

theorem outcome_of_binaryWidening? {outcome : ConversionOutcome}
    (decided : classifier.binaryWidening? query = some outcome) :
    ∃ expr, query.expr = some expr ∧
      outcome.conversion = if classifier.operandFits
        (largestOperand classifier.types classifier.exprs expr) query.target
        then .implicitNumeric else .noConversion := by
  unfold binaryWidening? at decided
  split at decided
  · cases decided
  rename_i expr given
  refine ⟨expr, given, ?_⟩
  split at decided
  · dsimp only at decided
    split at decided
    · cases decided
    split at decided
    all_goals
      cases decided
      simp [*]
  · cases decided

/-- The width of an arithmetic expression is that of its leftmost widest leaf. Where the legacy rule
on such expressions decides, it converts exactly the expressions whose leaves fit the target, and no
other. -/
theorem leaves_decide_widening (classifier : Classifier) :
    (∀ expr widest, largestOperand classifier.types classifier.exprs expr = widest ↔
      classifier.types.LeftmostWidest (classifier.exprs.operandTypes expr) widest) ∧
    ∀ query, (classifier.classify query).decidedBy = .legacy .binaryWidening →
      ∃ expr, query.expr = some expr ∧
        ((classifier.classify query).conversion = .implicitNumeric ↔
          classifier.OperandsFit (classifier.exprs.operandTypes expr) query.target) ∧
        (¬classifier.OperandsFit (classifier.exprs.operandTypes expr) query.target →
          (classifier.classify query).conversion = .noConversion) := by
  refine ⟨fun _ _ => largestOperand_eq_iff, ?_⟩
  intro query decided
  obtain ⟨expr, given, answer⟩ := outcome_of_binaryWidening? (applyRule?_of_decidedBy decided)
  refine ⟨expr, given, ?_⟩
  rw [answer, ← operandFits_largestOperand_iff]
  split
  · rename_i fits
    exact ⟨iff_of_true rfl fits, fun unfit => absurd fits unfit⟩
  · rename_i unfit
    exact ⟨iff_of_false (by simp) unfit, fun _ => rfl⟩

/-- A byte combined with a small number that is converted to 64 bits, and a signed variable of 16
bits added to that. -/
def mixedSum : Classifier where
  types := .ofPointerSize 8
  exprs := ⟨#[
    { kind := .variableAccess none, type := .byte, parent := some ⟨3⟩ },
    { kind := .literal (.int 200), type := .long, parent := some ⟨2⟩ },
    { kind := .conversion ⟨1⟩ false, type := .int64, parent := some ⟨3⟩ },
    { kind := .binary .bitOr ⟨0⟩ ⟨2⟩, type := .int64, parent := some ⟨5⟩ },
    { kind := .variableAccess none, type := .short, parent := some ⟨5⟩ },
    { kind := .binary .add ⟨3⟩ ⟨4⟩, type := .int64 }]⟩
  options := .forDialect .vo

/-- The sum of 64 bits is taken for one of 16, but only for a signed one. -/
theorem mixedSum_fits_signed :
    mixedSum.exprs.operandTypes ⟨5⟩ = [.byte, .byte, .short] ∧
      ((mixedSum.classify ⟨some ⟨5⟩, .int64, .short⟩).decidedBy = .legacy .binaryWidening ∧
        (mixedSum.classify ⟨some ⟨5⟩, .int64, .short⟩).conversion = .implicitNumeric ∧
        mixedSum.OperandsFit (mixedSum.exprs.operandTypes ⟨5⟩) .short) ∧
      (mixedSum.classify ⟨some ⟨5⟩, .int64, .word⟩).decidedBy = .legacy .binaryWidening ∧
      (mixedSum.classify ⟨some ⟨5⟩, .int64, .word⟩).conversion = .noConversion ∧
      ¬mixedSum.OperandsFit (mixedSum.exprs.operandTypes ⟨5⟩) .word := by
  have evaluated : mixedSum.exprs.operandTypes ⟨5⟩ = [.byte, .byte, .short] ∧
      ((mixedSum.classify ⟨some ⟨5⟩, .int64, .short⟩).decidedBy = .legacy .binaryWidening ∧
        (mixedSum.classify ⟨some ⟨5⟩, .int64, .short⟩).conversion = .implicitNumeric) ∧
      (mixedSum.classify ⟨some ⟨5⟩, .int64, .word⟩).decidedBy = .legacy .binaryWidening ∧
      (mixedSum.classify ⟨some ⟨5⟩, .int64, .word⟩).conversion = .noConversion := by decide +kernel
  obtain ⟨leaves, ⟨decidedShort, short⟩, decidedWord, word⟩ := evaluated
  obtain ⟨shortExpr, ofShort, fits, _⟩ := mixedSum.leaves_decide_widening.2 _ decidedShort
  obtain ⟨wordExpr, ofWord, unfit, _⟩ := mixedSum.leaves_decide_widening.2 _ decidedWord
  cases ofShort
  cases ofWord
  refine ⟨leaves, ⟨decidedShort, short, fits.mp short⟩, decidedWord, word, ?_⟩
  rw [← unfit, word]
  simp

end Classifier

end DialectBinder
