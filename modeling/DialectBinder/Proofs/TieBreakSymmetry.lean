import DialectBinder.Call.TieBreak

/-! Exchanging two candidates exchanges the answer of every tie-breaking rule and keeps the rule
that gives it, so a tie is broken in one way whichever candidate is named first. -/

namespace DialectBinder

namespace Side

/-- The answers to one question about a pair, asked of the pair and of the exchanged pair. -/
def Mirrors (forward backward : Option Side) : Prop := backward = forward.map swap

namespace Mirrors

theorem silent : Mirrors none none := rfl

theorem preference (onLeft onRight : Bool) :
    Mirrors (prefer onLeft onRight) (prefer onRight onLeft) := by
  cases onLeft <;> cases onRight <;> rfl

theorem orElse (first : Mirrors forward backward) (second : Mirrors forwardNext backwardNext) :
    Mirrors (forward <|> forwardNext) (backward <|> backwardNext) := by
  cases forward with
  | none =>
    have unanswered : backward = none := first
    subst unanswered
    exact second
  | some side =>
    have answered : backward = some side.swap := first
    subst answered
    rfl

theorem guarded (condition : Prop) [Decidable condition] (inner : Mirrors forward backward) :
    Mirrors (if condition then forward else none) (if condition then backward else none) := by
  split
  · exact inner
  · exact silent

/-- A search along two lists, in step with a third one, stops at the same place. -/
theorem findSome?_zip {α β : Type} {ask : α → α → β → Option Side}
    (mirrored : ∀ one other item, Mirrors (ask one other item) (ask other one item))
    (ones others : List α) (items : List β) :
    Mirrors (((ones.zip others).zip items).findSome? fun ((one, other), item) => ask one other item)
      (((others.zip ones).zip items).findSome? fun ((one, other), item) => ask one other item) := by
  induction ones generalizing others items with
  | nil => cases others <;> exact silent
  | cons one ones ih =>
    cases others with
    | nil => exact silent
    | cons other others =>
      cases items with
      | nil => exact silent
      | cons item items =>
        have here := mirrored one other item
        simp only [List.zip_cons_cons, List.findSome?_cons]
        cases answer : ask one other item with
        | none =>
          have unanswered : ask other one item = none := by simpa [Mirrors, answer] using here
          simpa only [unanswered] using ih others items
        | some side =>
          have answered : ask other one item = some side.swap := by
            simpa [Mirrors, answer] using here
          simp [Mirrors, answered]

end Mirrors

end Side

open Side (Mirrors)

theorem Text.sameIgnoringCase_comm (left right : String) :
    sameIgnoringCase left right = sameIgnoringCase right left := by
  simp only [sameIgnoringCase, Bool.beq_comm]

/-- Containers whose names differ in case alone hold free functions together or not at all. -/
theorem isFunctionsContainer_congr {left right : String}
    (same : Text.sameIgnoringCase left right = true) :
    isFunctionsContainer left = isFunctionsContainer right := by
  have folded := (Text.sameIgnoringCase_iff left right).mp same
  simp only [isFunctionsContainer, Text.endsIgnoringCase, folded]

namespace TieBreaker

variable (breaker : TieBreaker)

theorem origin_mirrors (left right : Member) :
    Mirrors (breaker.origin left right) (breaker.origin right left) := by
  unfold origin
  -- The second question looks at the left side alone, but is reached only if both sides agree on
  -- the first.
  cases breaker.assemblies.isLegacyRuntime left.assembly <;>
    cases breaker.assemblies.isLegacyRuntime right.assembly
  · exact (Mirrors.preference _ _).orElse (Mirrors.preference _ _)
  · rfl
  · rfl
  · exact Mirrors.silent

theorem overUsual_mirrors (left right argument : TypeId) :
    Mirrors (breaker.overUsual left right argument) (breaker.overUsual right left argument) := by
  have asked : (right != left) = (left != right) := bne_comm
  simp only [overUsual, asked]
  apply Mirrors.guarded
  rw [Bool.and_comm (breaker.isSpecific right), Bool.and_comm (breaker.types.isUsual right)]
  exact Mirrors.preference _ _

theorem overObject_mirrors (left right : TypeId) :
    Mirrors (breaker.overObject left right) (breaker.overObject right left) := by
  unfold overObject
  rw [Bool.and_comm (breaker.types.isArrayOf right .object), Bool.and_comm (right == .object)]
  exact Mirrors.preference _ _

theorem byAddress_mirrors (left right : Parameter) (argument : Argument) :
    Mirrors (byAddress left right argument) (byAddress right left argument) := by
  have asked : (right.passing != left.passing) = (left.passing != right.passing) := bne_comm
  simp only [byAddress, asked]
  exact Mirrors.guarded _ (Mirrors.preference _ _)

theorem exactType_mirrors (left right argument : TypeId) :
    Mirrors (breaker.exactType left right argument) (breaker.exactType right left argument) := by
  apply (Mirrors.preference _ _).orElse
  cases breaker.types.underlying? argument with
  | none => exact Mirrors.silent
  | some underlying => exact Mirrors.preference _ _

theorem floatToReal_mirrors (left right argument : TypeId) :
    Mirrors (breaker.floatToReal left right argument) (breaker.floatToReal right left argument) :=
  Mirrors.guarded _ (Mirrors.preference _ _)

theorem shapeAt_mirrors (left right : Parameter) (argument : Argument) :
    Mirrors (breaker.shapeAt left right argument) (breaker.shapeAt right left argument) := by
  apply (breaker.overUsual_mirrors _ _ _).orElse
  apply (breaker.overObject_mirrors _ _).orElse
  apply (byAddress_mirrors _ _ _).orElse
  exact (breaker.exactType_mirrors _ _ _).orElse (breaker.floatToReal_mirrors _ _ _)

theorem parameterShape_mirrors (left right : Member) (arguments : List Argument) :
    Mirrors (breaker.parameterShape left right arguments)
      (breaker.parameterShape right left arguments) := by
  have asked : (right.parameters.length == left.parameters.length) =
      (left.parameters.length == right.parameters.length) := BEq.comm
  simp only [parameterShape, asked]
  apply Mirrors.guarded
  exact Mirrors.findSome?_zip breaker.shapeAt_mirrors _ _ _

theorem functionsContainer_mirrors (left right : Member) :
    Mirrors (breaker.functionsContainer left right) (breaker.functionsContainer right left) := by
  have apart : (right.assembly != left.assembly) = (left.assembly != right.assembly) := bne_comm
  have named := Text.sameIgnoringCase_comm right.container left.container
  -- Only the left container is asked for its ending; with one name for both the right one has it
  -- too.
  cases same : Text.sameIgnoringCase left.container right.container with
  | false =>
    simp only [functionsContainer, named, same, Bool.and_false]
    exact Mirrors.silent
  | true =>
    simp only [functionsContainer, apart, named, same, isFunctionsContainer_congr same]
    exact Mirrors.guarded _ (Mirrors.preference _ _)

theorem operatorPair?_exchange (left right : Member) (arguments : List Argument) :
    (operatorPair? left right arguments = none ∧ operatorPair? right left arguments = none) ∨
      ∃ leftOperands rightOperands first second,
        operatorPair? left right arguments = some (leftOperands, rightOperands, first, second) ∧
        operatorPair? right left arguments = some (rightOperands, leftOperands, first, second) := by
  unfold operatorPair?
  cases left.operands? with
  | none => cases right.operands? <;> exact .inl ⟨rfl, rfl⟩
  | some leftOperands =>
    cases right.operands? with
    | none => exact .inl ⟨rfl, rfl⟩
    | some rightOperands =>
      match arguments with
      | [first, second] => exact .inr ⟨leftOperands, rightOperands, first, second, rfl, rfl⟩
      | [] | [_] | _ :: _ :: _ :: _ => exact .inl ⟨rfl, rfl⟩

theorem doubleOverSingle_mirrors (left right : TypeId × TypeId) :
    Mirrors (doubleOverSingle left right) (doubleOverSingle right left) := by
  have wider (leftType rightType : TypeId) :
      Mirrors (Side.prefer (leftType == .real8 && rightType == .real4)
        (leftType == .real4 && rightType == .real8))
        (Side.prefer (rightType == .real8 && leftType == .real4)
          (rightType == .real4 && leftType == .real8)) := by
    rw [Bool.and_comm (rightType == .real8), Bool.and_comm (rightType == .real4)]
    exact Mirrors.preference _ _
  have firsts : (right.1 == left.1) = (left.1 == right.1) := BEq.comm
  have seconds : (right.2 == left.2) = (left.2 == right.2) := BEq.comm
  simp only [doubleOverSingle, firsts, seconds]
  cases left.1 == right.1 <;> cases left.2 == right.2
  · exact Mirrors.silent
  · exact wider _ _
  · exact wider _ _
  · exact Mirrors.silent

theorem sameSign_mirrors (left right arguments : TypeId × TypeId) :
    Mirrors (breaker.sameSign left right arguments) (breaker.sameSign right left arguments) := by
  have asked := Bool.and_right_comm breaker.options.signedUnsigned
    (breaker.types.isIntegral left.1 && breaker.types.isIntegral left.2)
    (breaker.types.isIntegral right.1 && breaker.types.isIntegral right.2)
  simp only [sameSign, asked]
  apply Mirrors.guarded
  apply (Mirrors.preference _ _).orElse
  apply (Mirrors.preference _ _).orElse
  exact (Mirrors.preference _ _).orElse (Mirrors.preference _ _)

theorem binaryOperator_mirrors (left right : Member) (arguments : List Argument) :
    Mirrors (breaker.binaryOperator left right arguments)
      (breaker.binaryOperator right left arguments) := by
  obtain ⟨forward, backward⟩ | ⟨leftOperands, rightOperands, first, second, forward, backward⟩ :=
    operatorPair?_exchange left right arguments
  · simp only [binaryOperator, forward, backward]
    exact Mirrors.silent
  · simp only [binaryOperator, forward, backward]
    apply (doubleOverSingle_mirrors _ _).orElse
    apply (Mirrors.guarded _ (Mirrors.preference _ _)).orElse
    exact (Mirrors.preference _ _).orElse (breaker.sameSign_mirrors _ _ _)

theorem literalOperand_mirrors (left right : Member) (arguments : List Argument) :
    Mirrors (breaker.literalOperand left right arguments)
      (breaker.literalOperand right left arguments) := by
  obtain ⟨forward, backward⟩ | ⟨leftOperands, rightOperands, first, second, forward, backward⟩ :=
    operatorPair?_exchange left right arguments
  · simp only [literalOperand, forward, backward]
    exact Mirrors.silent
  · simp only [literalOperand, forward, backward]
    -- Which argument is the literal does not depend on the candidates.
    split
    · exact Mirrors.guarded _ (Mirrors.preference _ _)
    · exact Mirrors.guarded _ (Mirrors.preference _ _)
    · exact Mirrors.silent

theorem usualOperand_mirrors (left right : Member) (arguments : List Argument) :
    Mirrors (breaker.usualOperand left right arguments)
      (breaker.usualOperand right left arguments) := by
  obtain ⟨forward, backward⟩ | ⟨leftOperands, rightOperands, first, second, forward, backward⟩ :=
    operatorPair?_exchange left right arguments
  · simp only [usualOperand, forward, backward]
    exact Mirrors.silent
  · simp only [usualOperand, forward, backward]
    exact Mirrors.guarded _ ((Mirrors.preference _ _).orElse (Mirrors.preference _ _))

/-- Every rule prefers the other side of the exchanged pair, or neither side of both. -/
theorem applyRule?_mirrors (left right : Member) (arguments : List Argument) (rule : TieRule) :
    Mirrors (breaker.applyRule? left right arguments rule)
      (breaker.applyRule? right left arguments rule) := by
  cases rule with
  | origin => exact breaker.origin_mirrors left right
  | parameterShape => exact breaker.parameterShape_mirrors left right arguments
  | functionsContainer => exact breaker.functionsContainer_mirrors left right
  | binaryOperator => exact breaker.binaryOperator_mirrors left right arguments
  | literalOperand => exact breaker.literalOperand_mirrors left right arguments
  | usualOperand => exact breaker.usualOperand_mirrors left right arguments

end TieBreaker

def TieDecision.swap (decision : TieDecision) : TieDecision :=
  { decision with winner := decision.winner.swap }

namespace TieBreaker

variable (breaker : TieBreaker)

/-- The cascade is a search for the first rule with an answer, and a rule answers both pairs or
neither. -/
theorem pickBetter?_swap (left right : Member) (arguments : List Argument) :
    breaker.pickBetter? right left arguments =
      (breaker.pickBetter? left right arguments).map TieDecision.swap := by
  unfold pickBetter?
  rw [List.map_findSome?]
  congr 1
  funext rule
  have mirrored : _ = _ := breaker.applyRule?_mirrors left right arguments rule
  simp only [mirrored, Option.map_map, Function.comp_def]
  rfl

/-- Exchanging the candidates exchanges the winner and changes neither the rule that decides nor
whether the programmer hears of it. -/
theorem pickBetter?_antisymmetric (left right : Member) (arguments : List Argument) :
    (breaker.pickBetter? right left arguments).map (·.winner) =
        ((breaker.pickBetter? left right arguments).map (·.winner)).map Side.swap ∧
      (breaker.pickBetter? right left arguments).any (·.rule.isAmbiguous) =
        (breaker.pickBetter? left right arguments).any (·.rule.isAmbiguous) ∧
      (breaker.pickBetter? right left arguments).map (·.rule.name) =
        (breaker.pickBetter? left right arguments).map (·.rule.name) := by
  rw [breaker.pickBetter?_swap left right arguments]
  cases breaker.pickBetter? left right arguments with
  | none => exact ⟨rfl, rfl, rfl⟩
  | some decision => exact ⟨rfl, rfl, rfl⟩

end TieBreaker

end DialectBinder
