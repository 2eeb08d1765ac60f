import DialectBinder.Identity

/-! Advice and lowering hints on expressions, kept beside them. Marks only accumulate, so that the
order of marking and its repetition do not show. -/

namespace DialectBinder

structure Annotations where
  /-- Integers of one width reinterpreted with another sign. -/
  signChange : Bool := false
  /-- A number converted to a narrower type. -/
  narrowing : Bool := false
  /-- A native integer boxed in a way that takes a helper to unbox. -/
  specialUnbox : Bool := false
  /-- A conversion that goes through the legacy runtime. -/
  specialHandling : Bool := false
deriving DecidableEq, Repr

namespace Annotations

def isEmpty (flags : Annotations) : Bool := flags == {}

def union (left right : Annotations) : Annotations where
  signChange := left.signChange || right.signChange
  narrowing := left.narrowing || right.narrowing
  specialUnbox := left.specialUnbox || right.specialUnbox
  specialHandling := left.specialHandling || right.specialHandling

/-- The part that is advice to the programmer. -/
def warnings (flags : Annotations) : Annotations := { signChange := flags.signChange, narrowing := flags.narrowing }

/-- Whether every mark of `part` is among the flags. -/
def includes (flags part : Annotations) : Bool := flags.union part == flags

/-- The flags of a bit set; other bits mean nothing. -/
def ofBits (bits : Nat) : Annotations where
  signChange := bits.testBit 0
  narrowing := bits.testBit 1
  specialUnbox := bits.testBit 2
  specialHandling := bits.testBit 3

def toBits (flags : Annotations) : Nat :=
  flags.signChange.toNat + 2 * flags.narrowing.toNat + 4 * flags.specialUnbox.toNat +
    8 * flags.specialHandling.toNat

theorem union_ne_empty {left : Annotations} (marked : left ≠ {}) (right : Annotations) : left.union right ≠ {} := by
  intro empty
  apply marked
  simp only [union, Annotations.mk.injEq, Bool.or_eq_false_iff] at empty
  obtain ⟨⟨first, _⟩, ⟨second, _⟩, ⟨third, _⟩, ⟨fourth, _⟩⟩ := empty
  cases left
  simp_all

end Annotations

namespace AnnotationEntries

/-- Entries after flags have been joined to those of an expression. -/
def join (expr : ExprId) (flags : Annotations) :
    List (ExprId × Annotations) → List (ExprId × Annotations)
  | [] => [(expr, flags)]
  | (other, held) :: rest =>
      if expr.index < other.index then (expr, flags) :: (other, held) :: rest
      else if expr = other then (other, held.union flags) :: rest
      else (other, held) :: join expr flags rest

/-- A key of the joined entries is the new one or an old one. -/
theorem key_of_mem_join {expr : ExprId} {flags : Annotations} {entries : List (ExprId × Annotations)}
    {entry : ExprId × Annotations} (member : entry ∈ join expr flags entries) :
    entry.1 = expr ∨ ∃ old ∈ entries, entry.1 = old.1 := by
  induction entries with
  | nil => simp_all [join]
  | cons head rest ih =>
    obtain ⟨other, held⟩ := head
    simp only [join] at member
    split at member
    · rcases List.mem_cons.mp member with same | old
      · exact .inl (by rw [same])
      · exact .inr ⟨entry, old, rfl⟩
    · split at member
      · rcases List.mem_cons.mp member with same | old
        · exact .inr ⟨(other, held), by simp, by rw [same]⟩
        · exact .inr ⟨entry, by simp [old], rfl⟩
      · rcases List.mem_cons.mp member with same | later
        · exact .inr ⟨(other, held), by simp, by rw [same]⟩
        · rcases ih later with new | ⟨old, present, same⟩
          · exact .inl new
          · exact .inr ⟨old, by simp [present], same⟩

theorem pairwise_join (expr : ExprId) (flags : Annotations) {entries : List (ExprId × Annotations)}
    (ordered : entries.Pairwise fun left right => left.1.index < right.1.index) :
    (join expr flags entries).Pairwise fun left right => left.1.index < right.1.index := by
  induction entries with
  | nil => simp [join]
  | cons head rest ih =>
    obtain ⟨other, held⟩ := head
    obtain ⟨first, later⟩ := List.pairwise_cons.mp ordered
    simp only [join]
    split
    · rename_i smaller
      refine List.pairwise_cons.mpr ⟨fun entry member => ?_, ordered⟩
      rcases List.mem_cons.mp member with same | member
      · simpa [same] using smaller
      · exact Nat.lt_trans smaller (first entry member)
    · rename_i notSmaller
      split
      · exact List.pairwise_cons.mpr ⟨fun entry member => first entry member, later⟩
      · rename_i different
        refine List.pairwise_cons.mpr ⟨fun entry member => ?_, ih later⟩
        rcases key_of_mem_join member with new | ⟨old, present, same⟩
        · have apart : expr.index ≠ other.index := fun same => different (by cases expr; cases other; simp_all)
          rw [new]
          show other.index < expr.index
          omega
        · rw [same]
          exact first old present

theorem marked_join {expr : ExprId} {flags : Annotations} (marks : flags ≠ {})
    {entries : List (ExprId × Annotations)} (marked : ∀ entry ∈ entries, entry.2 ≠ {}) :
    ∀ entry ∈ join expr flags entries, entry.2 ≠ {} := by
  induction entries with
  | nil => simpa [join] using marks
  | cons head rest ih =>
    obtain ⟨other, held⟩ := head
    have heldMarked : held ≠ {} := marked (other, held) (by simp)
    have restMarked : ∀ entry ∈ rest, entry.2 ≠ {} := fun entry member => marked entry (by simp [member])
    intro entry member
    simp only [join] at member
    split at member
    · rcases List.mem_cons.mp member with same | old
      · rw [same]; exact marks
      · exact marked entry old
    · split at member
      · rcases List.mem_cons.mp member with same | old
        · rw [same]; exact Annotations.union_ne_empty heldMarked flags
        · exact restMarked entry old
      · rcases List.mem_cons.mp member with same | later
        · rw [same]; exact heldMarked
        · exact ih restMarked entry later

end AnnotationEntries

/-- The marked expressions in their order, each with its marks. -/
structure AnnotationTable where
  entries : List (ExprId × Annotations) := []
  ordered : entries.Pairwise fun left right => left.1.index < right.1.index := by simp
  marked : ∀ entry ∈ entries, entry.2 ≠ {} := by simp

namespace AnnotationTable

def get (table : AnnotationTable) (expr : ExprId) : Annotations := (table.entries.lookup expr).getD {}

/-- Join flags to the marks of an expression. -/
def mark (table : AnnotationTable) (expr : ExprId) (flags : Annotations) : AnnotationTable :=
  if marks : flags = {} then table
  else ⟨AnnotationEntries.join expr flags table.entries, AnnotationEntries.pairwise_join expr flags table.ordered,
    AnnotationEntries.marked_join marks table.marked⟩

def size (table : AnnotationTable) : Nat := table.entries.length

end AnnotationTable

end DialectBinder
