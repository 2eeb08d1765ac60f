import DialectBinder.Span
import Mathlib.Data.UInt

/-! Covering spans as taking least upper bounds. A span lies within another if it neither starts
before it nor ends after it, and a dummy lies within every span. In that order the cover of two
spans is their least upper bound, whence its laws. -/

namespace DialectBinder.Span

/-- The first offset after the span, which may lie beyond the 32-bit offsets. -/
def stop (span : Span) : Nat := span.start.toNat + span.length.toNat

/-- The span ends at an offset of 32 bits. -/
def Fits (span : Span) : Prop := span.stop < UInt32.size

instance (span : Span) : Decidable span.Fits :=
  inferInstanceAs (Decidable (span.stop < UInt32.size))

/-- The outer span starts no later than the inner one and ends no earlier. -/
def Contains (outer inner : Span) : Prop :=
  outer.start.toNat ≤ inner.start.toNat ∧ inner.stop ≤ outer.stop

/-- The order of spans, with the dummy below all others. -/
def Within (inner outer : Span) : Prop := inner = dummy ∨ outer.Contains inner

theorem isDummy_iff (span : Span) : span.isDummy = true ↔ span = dummy := by
  obtain ⟨start, length⟩ := span
  simp [isDummy, dummy]

theorem eq_of_start_of_stop {left right : Span} (start : left.start.toNat = right.start.toNat)
    (stop : left.stop = right.stop) : left = right := by
  have length : left.length.toNat = right.length.toNat := by
    unfold Span.stop at stop
    omega
  cases left
  cases right
  rw [mk.injEq]
  exact ⟨UInt32.toNat_inj.mp start, UInt32.toNat_inj.mp length⟩

theorem eq_dummy_of_contains {span : Span} (inside : dummy.Contains span) : span = dummy := by
  have stop : span.stop ≤ 0 := inside.2
  have start : span.start.toNat ≤ span.stop := Nat.le_add_right _ _
  exact eq_of_start_of_stop (Nat.le_zero.mp (Nat.le_trans start stop)) (Nat.le_zero.mp stop)

theorem Within.refl (span : Span) : span.Within span := .inr ⟨Nat.le_refl _, Nat.le_refl _⟩

theorem Within.antisymm {left right : Span} (one : left.Within right) (other : right.Within left) :
    left = right := by
  rcases one with rfl | inside
  · rcases other with rfl | outside
    · rfl
    · exact (eq_dummy_of_contains outside).symm
  · rcases other with rfl | outside
    · exact eq_dummy_of_contains inside
    · exact eq_of_start_of_stop (Nat.le_antisymm outside.1 inside.1)
        (Nat.le_antisymm inside.2 outside.2)

theorem eq_of_within_iff {one other : Span}
    (same : ∀ outer, one.Within outer ↔ other.Within outer) : one = other :=
  Within.antisymm ((same other).mpr (.refl other)) ((same one).mp (.refl one))

section Hull

theorem endOffset_eq (span : Span) :
    span.endOffset =
      if span.Fits then .ok (span.start + span.length) else .error .spanOverflow := rfl

theorem toNat_end {span : Span} (fits : span.Fits) :
    (span.start + span.length).toNat = span.stop := by
  rw [UInt32.toNat_add]
  exact Nat.mod_eq_of_lt fits

/-- From the first start to the last end, for spans that are no dummies. -/
def hull (left right : Span) : Span :=
  ⟨min left.start right.start,
    max (left.start + left.length) (right.start + right.length) - min left.start right.start⟩

theorem cover_eq (left right : Span) :
    left.cover right =
      if left = dummy then .ok right else if right = dummy then .ok left
      else if left.Fits ∧ right.Fits then .ok (hull left right) else .error .spanOverflow := by
  simp only [cover, isDummy_iff, endOffset_eq]
  split
  · rfl
  · split
    · rfl
    · by_cases leftFits : left.Fits <;> by_cases rightFits : right.Fits <;>
        simp [leftFits, rightFits] <;> rfl

variable {left right : Span} (leftFits : left.Fits) (rightFits : right.Fits)

include leftFits rightFits

/-- The length of the hull is a difference of two offsets in order. -/
theorem first_le_last :
    min left.start right.start ≤ max (left.start + left.length) (right.start + right.length) := by
  rw [UInt32.le_iff_toNat_le, UInt32.toNat_min, UInt32.toNat_max, toNat_end leftFits,
    toNat_end rightFits]
  unfold stop
  omega

theorem stop_hull : (hull left right).stop = max left.stop right.stop := by
  have order := first_le_last leftFits rightFits
  have length := UInt32.toNat_sub_of_le _ _ order
  have start := UInt32.le_iff_toNat_le.mp order
  rw [UInt32.toNat_max, toNat_end leftFits, toNat_end rightFits] at start length
  rw [stop, hull, length, Nat.add_sub_cancel' start]

theorem fits_hull : (hull left right).Fits := by
  rw [Fits, stop_hull leftFits rightFits]
  exact Nat.max_lt.mpr ⟨leftFits, rightFits⟩

theorem contains_hull_iff (outer : Span) :
    outer.Contains (hull left right) ↔ outer.Contains left ∧ outer.Contains right := by
  have start : (hull left right).start.toNat = min left.start.toNat right.start.toNat :=
    UInt32.toNat_min _ _
  unfold Contains
  rw [start, stop_hull leftFits rightFits]
  omega

theorem hull_ne_dummy (leftReal : left ≠ dummy) : hull left right ≠ dummy := by
  intro empty
  -- The hull contains the left span, and the dummy contains nothing but itself.
  have inside :=
    (contains_hull_iff leftFits rightFits (hull left right)).mp ⟨Nat.le_refl _, Nat.le_refl _⟩
  rw [empty] at inside
  exact leftReal (eq_dummy_of_contains inside.1)

end Hull

theorem within_iff_of_real {span : Span} (real : span ≠ dummy) (outer : Span) :
    span.Within outer ↔ outer.Contains span := by
  simp [Within, real]

theorem dummy_within (outer : Span) : dummy.Within outer := .inl rfl

/-- The cover of two spans that fit is their least upper bound. -/
theorem exists_cover {left right : Span} (leftFits : left.Fits) (rightFits : right.Fits) :
    ∃ whole, left.cover right = .ok whole ∧ whole.Fits ∧
      ∀ outer, whole.Within outer ↔ left.Within outer ∧ right.Within outer := by
  rw [cover_eq]
  split
  · rename_i leftDummy
    exact ⟨right, rfl, rightFits, fun outer => by simp [leftDummy, dummy_within]⟩
  · rename_i leftReal
    split
    · rename_i rightDummy
      exact ⟨left, rfl, leftFits, fun outer => by simp [rightDummy, dummy_within]⟩
    · rename_i rightReal
      refine ⟨hull left right, if_pos ⟨leftFits, rightFits⟩, fits_hull leftFits rightFits,
        fun outer => ?_⟩
      rw [within_iff_of_real (hull_ne_dummy leftFits rightFits leftReal),
        within_iff_of_real leftReal,
        within_iff_of_real rightReal, contains_hull_iff leftFits rightFits]

theorem contains_cover_iff {left right whole : Span} (leftFits : left.Fits) (rightFits : right.Fits)
    (leftReal : left ≠ dummy) (rightReal : right ≠ dummy) (covered : left.cover right = .ok whole)
    (outer : Span) :
    outer.Contains whole ↔ outer.Contains left ∧ outer.Contains right := by
  rw [cover_eq, if_neg leftReal, if_neg rightReal, if_pos ⟨leftFits, rightFits⟩] at covered
  cases covered
  exact contains_hull_iff leftFits rightFits outer

section Laws

variable {left middle right : Span} (leftFits : left.Fits) (middleFits : middle.Fits)
    (rightFits : right.Fits)

include leftFits

theorem cover_self : left.cover left = .ok left := by
  obtain ⟨whole, covered, _, bound⟩ := exists_cover leftFits leftFits
  have same : whole = left := eq_of_within_iff fun outer => by rw [bound, and_self]
  rw [covered, same]

include rightFits

theorem cover_comm : left.cover right = right.cover left := by
  obtain ⟨whole, covered, _, bound⟩ := exists_cover leftFits rightFits
  obtain ⟨other, otherCovered, _, otherBound⟩ := exists_cover rightFits leftFits
  have same : whole = other := eq_of_within_iff fun outer => by rw [bound, otherBound, and_comm]
  rw [covered, otherCovered, same]

include middleFits

theorem cover_assoc :
    ∃ whole, (left.cover middle >>= fun part => part.cover right) = .ok whole ∧
      (middle.cover right >>= fun part => left.cover part) = .ok whole := by
  obtain ⟨first, firstCovered, firstFits, firstBound⟩ := exists_cover leftFits middleFits
  obtain ⟨last, lastCovered, lastFits, lastBound⟩ := exists_cover middleFits rightFits
  obtain ⟨whole, covered, _, bound⟩ := exists_cover firstFits rightFits
  obtain ⟨other, otherCovered, _, otherBound⟩ := exists_cover leftFits lastFits
  have same : whole = other := eq_of_within_iff fun outer => by
    rw [bound, firstBound, otherBound, lastBound, and_assoc]
  refine ⟨whole, ?_, ?_⟩
  · rw [firstCovered]
    exact covered
  · rw [lastCovered, same]
    exact otherCovered

end Laws

theorem cover_dummy (span : Span) : span.cover dummy = .ok span ∧ dummy.cover span = .ok span := by
  refine ⟨?_, by rw [cover_eq, if_pos rfl]⟩
  rw [cover_eq]
  split
  · rename_i empty
    rw [empty]
  · rw [if_pos rfl]

theorem cover_eq_error_iff (left right : Span) :
    left.cover right = .error .spanOverflow ↔
      left ≠ dummy ∧ right ≠ dummy ∧ (UInt32.size ≤ left.stop ∨ UInt32.size ≤ right.stop) := by
  rw [cover_eq]
  by_cases leftDummy : left = dummy
  · simp [leftDummy]
  · by_cases rightDummy : right = dummy
    · simp [leftDummy, rightDummy]
    · by_cases fits : left.Fits ∧ right.Fits
      · have short : ¬(UInt32.size ≤ left.stop ∨ UInt32.size ≤ right.stop) := by
          unfold Fits at fits
          omega
        simp [leftDummy, rightDummy, fits, short]
      · have long : UInt32.size ≤ left.stop ∨ UInt32.size ≤ right.stop := by
          unfold Fits at fits
          omega
        simp [leftDummy, rightDummy, fits, long]

/-- Covering is a semilattice on the spans that end at an offset of 32 bits. There it neither
overflows nor takes a later offset from an earlier one, it is commutative, associative and
idempotent with the dummy as identity, and of spans that are no dummies it gives the least span that
contains both. Of all spans, it fails on those that are no dummies and one of which ends beyond the
offsets. -/
theorem cover_semilattice (left middle right : Span) :
    (left.Fits → middle.Fits → right.Fits →
      (∃ leftEnd rightEnd whole, left.endOffset = .ok leftEnd ∧ right.endOffset = .ok rightEnd ∧
        min left.start right.start ≤ max leftEnd rightEnd ∧
          left.cover right = .ok whole ∧ whole.Fits ∧
        (left ≠ dummy → right ≠ dummy → whole.Contains left ∧ whole.Contains right ∧
          ∀ outer : Span, outer.Contains left → outer.Contains right → outer.Contains whole)) ∧
      left.cover right = right.cover left ∧
      (∃ whole, (left.cover middle >>= fun part => part.cover right) = .ok whole ∧
        (middle.cover right >>= fun part => left.cover part) = .ok whole) ∧
      left.cover left = .ok left ∧ left.cover dummy = .ok left ∧ dummy.cover left = .ok left) ∧
    (left.cover right = .error .spanOverflow ↔
      left ≠ dummy ∧ right ≠ dummy ∧ (UInt32.size ≤ left.stop ∨ UInt32.size ≤ right.stop)) ∧
    ((∃ whole, left.cover right = .ok whole) ∨ left.cover right = .error .spanOverflow) := by
  refine ⟨fun leftFits middleFits rightFits => ?_, cover_eq_error_iff left right, ?_⟩
  · refine ⟨?_, cover_comm leftFits rightFits, cover_assoc leftFits middleFits rightFits,
      cover_self leftFits,
      cover_dummy left⟩
    obtain ⟨whole, covered, fits, _⟩ := exists_cover leftFits rightFits
    refine ⟨_, _, whole, if_pos leftFits, if_pos rightFits, first_le_last leftFits rightFits,
      covered, fits, ?_⟩
    intro leftReal rightReal
    have least := contains_cover_iff leftFits rightFits leftReal rightReal covered
    obtain ⟨first, second⟩ := (least whole).mp ⟨Nat.le_refl _, Nat.le_refl _⟩
    exact ⟨first, second, fun outer one other => (least outer).mpr ⟨one, other⟩⟩
  · rw [cover_eq]
    split
    · exact .inl ⟨_, rfl⟩
    · split
      · exact .inl ⟨_, rfl⟩
      · split
        · exact .inl ⟨_, rfl⟩
        · exact .inr rfl

/-- An empty span and one that ends at the last offset have a cover. One byte more, and they have
none. -/
theorem last_offset_covered :
    (⟨5, 0⟩ : Span).Fits ∧ dummy.Fits ∧ (⟨4294967290, 5⟩ : Span).Fits ∧
      (∃ whole, cover ⟨5, 0⟩ ⟨4294967290, 5⟩ = .ok whole ∧ whole.Contains ⟨5, 0⟩ ∧
        whole.Contains ⟨4294967290, 5⟩) ∧
      cover ⟨5, 0⟩ ⟨4294967290, 6⟩ = .error .spanOverflow := by
  have emptyFits : (⟨5, 0⟩ : Span).Fits := by decide
  have dummyFits : dummy.Fits := by decide
  have lastFits : (⟨4294967290, 5⟩ : Span).Fits := by decide
  obtain ⟨laws, _⟩ := cover_semilattice ⟨5, 0⟩ dummy ⟨4294967290, 5⟩
  obtain ⟨⟨_, _, whole, _, _, _, covered, _, least⟩, _⟩ := laws emptyFits dummyFits lastFits
  obtain ⟨first, second, _⟩ := least (by decide) (by decide)
  obtain ⟨_, overflow, _⟩ := cover_semilattice ⟨5, 0⟩ dummy ⟨4294967290, 6⟩
  exact ⟨emptyFits, dummyFits, lastFits, ⟨whole, covered, first, second⟩,
    overflow.mpr ⟨by decide, by decide, .inr (by decide)⟩⟩

end DialectBinder.Span
