import DialectBinder.Call.Applicability
import DialectBinder.Call.TieBreak

/-! Overload resolution. Of the candidates that take the arguments, the best is the one that beats
every other, by better conversions or else by the tie-breaking rules. -/

namespace DialectBinder

inductive Resolution where
  /-- The candidate at a place of the list. The first flag says that a tie had to be broken, the
  second that the programmer should hear of it. -/
  | success (index : Nat) (byTieBreak ambiguous : Bool)
  /-- Two of several candidates, none of which is the best. -/
  | ambiguous (first second : Nat)
  | noApplicable
deriving DecidableEq, Repr

/-- A candidate that takes the arguments, its place in the list and the bindings. -/
structure ApplicableCandidate where
  index : Nat
  member : Member
  bindings : List ArgumentBinding
deriving DecidableEq, Repr

/-- How two candidates compare. -/
structure Comparison where
  winner : Option Side
  byTieBreak : Bool := false
  ambiguous : Bool := false
deriving DecidableEq, Repr

/-- The side that converts no argument worse and some argument better. -/
def dominance (left right : List ArgumentBinding) : Option Side :=
  let ranks := (left.zip right).map fun (leftBinding, rightBinding) =>
    (leftBinding.conversion.rank, rightBinding.conversion.rank)
  Side.prefer (ranks.any fun (leftRank, rightRank) => leftRank < rightRank)
    (ranks.any fun (leftRank, rightRank) => rightRank < leftRank)

structure OverloadResolver where
  classifier : Classifier
  breaker : TieBreaker

namespace OverloadResolver

def applicable (resolver : OverloadResolver) (candidates : List Member) (arguments : List Argument) :
    List ApplicableCandidate :=
  candidates.zipIdx.filterMap fun (member, index) =>
    (resolver.classifier.bindArguments? member arguments).map fun bindings => ⟨index, member, bindings⟩

/-- Compare by the conversions, and by the tie-breaking rules if these do not tell. -/
def compare (resolver : OverloadResolver) (arguments : List Argument) (left right : ApplicableCandidate) :
    Comparison :=
  match dominance left.bindings right.bindings with
  | some winner => { winner := some winner }
  | none =>
      match resolver.breaker.pickBetter? left.member right.member arguments with
      | some decision => ⟨some decision.winner, true, decision.rule.isAmbiguous⟩
      | none => ⟨none, true, false⟩

def beats (resolver : OverloadResolver) (arguments : List Argument) (left right : ApplicableCandidate) : Bool :=
  (resolver.compare arguments left right).winner == some .left

/-- The candidates at other places of the list. -/
def rivals (pool : List ApplicableCandidate) (candidate : ApplicableCandidate) : List ApplicableCandidate :=
  pool.filter fun other => other.index != candidate.index

/-- The candidates that no other one beats. -/
def unbeaten (resolver : OverloadResolver) (arguments : List Argument) (pool : List ApplicableCandidate) :
    List ApplicableCandidate :=
  pool.filter fun candidate => !(rivals pool candidate).any fun other => resolver.beats arguments other candidate

/-- The best of several candidates, or two that stand for the ambiguity: two that none beats if
there are two, else the first two. -/
def pickBest (resolver : OverloadResolver) (arguments : List Argument) (pool : List ApplicableCandidate) :
    Resolution :=
  match pool.find? fun candidate => (rivals pool candidate).all (resolver.beats arguments candidate) with
  | some best =>
      let comparisons := (rivals pool best).map (resolver.compare arguments best)
      .success best.index (comparisons.any (·.byTieBreak)) (comparisons.any (·.ambiguous))
  | none =>
      match resolver.unbeaten arguments pool, pool with
      | first :: second :: _, _ => .ambiguous first.index second.index
      | _, first :: second :: _ => .ambiguous first.index second.index
      | _, _ => .noApplicable

/-- The best candidate for the arguments. -/
def resolve (resolver : OverloadResolver) (candidates : List Member) (arguments : List Argument) : Resolution :=
  match resolver.applicable candidates arguments with
  | [] => .noApplicable
  | pool => resolver.pickBest arguments pool

end OverloadResolver

end DialectBinder
