import DialectBinder.Fault

/-! Byte ranges of a source file, with 32-bit offsets. -/

namespace DialectBinder

/-- The bytes from `start` up to, and not including, `start + length`. -/
structure Span where
  start : UInt32
  length : UInt32
deriving DecidableEq, Repr

namespace Span

/-- The span of what has no source text. -/
def dummy : Span := ⟨0, 0⟩

def isDummy (span : Span) : Bool := span.start == 0 && span.length == 0

/-- The first offset after the span, if it is an offset. -/
def endOffset (span : Span) : Except Fault UInt32 :=
  if span.start.toNat + span.length.toNat < UInt32.size then .ok (span.start + span.length)
  else .error .spanOverflow

/-- The smallest span that holds both; a dummy adds nothing, and its partner is not inspected. -/
def cover (left right : Span) : Except Fault Span :=
  if left.isDummy then .ok right
  else if right.isDummy then .ok left
  else do
    let leftEnd ← left.endOffset
    let rightEnd ← right.endOffset
    let start := min left.start right.start
    return ⟨start, max leftEnd rightEnd - start⟩

/-- Order by start, then by length. -/
def before (left right : Span) : Bool :=
  left.start < right.start || (left.start == right.start && left.length < right.length)

end Span

end DialectBinder
