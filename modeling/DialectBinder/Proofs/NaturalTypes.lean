import Mathlib.Algebra.Order.Ring.Int
import Mathlib.Data.Set.Defs
import DialectBinder.Expr.Operand
import DialectBinder.Proofs.CategoryReadings
import DialectBinder.Proofs.CoreExtension

/-! Natural types of literals against the numbers that the integral types hold. The widths are one,
two, four and eight bytes, each twice the one before, so that a width is the least for a number as
soon as half of it is too small. -/

namespace DialectBinder

/-- The numbers that an integer of so many bytes holds. -/
def integerRange (signed : Bool) (bytes : Nat) : Set Int :=
  if signed then { value | -2 ^ (8 * bytes - 1) ≤ value ∧ value < 2 ^ (8 * bytes - 1) }
  else { value | 0 ≤ value ∧ value < 2 ^ (8 * bytes) }

def TypeTable.valueRange (table : TypeTable) (id : TypeId) : Set Int :=
  integerRange (table.isSignedIntegral id) (table.sizeInBytes id)

section Widths

variable {value : Int} {bytes bound : Nat} (narrow : bytes ≤ bound)

include narrow

theorem not_mem_integerRange_of_large (large : 2 ^ (8 * bound) ≤ value) (signed : Bool) :
    value ∉ integerRange signed bytes := by
  intro member
  cases signed with
  | true =>
    have below : value < 2 ^ (8 * bytes - 1) := member.2
    have grown : (2 : Int) ^ (8 * bytes - 1) ≤ 2 ^ (8 * bound) :=
      pow_le_pow_right₀ (by decide) (by omega)
    omega
  | false =>
    have below : value < 2 ^ (8 * bytes) := member.2
    have grown : (2 : Int) ^ (8 * bytes) ≤ 2 ^ (8 * bound) :=
      pow_le_pow_right₀ (by decide) (by omega)
    omega

theorem not_mem_integerRange_of_negative (low : value < -2 ^ (8 * bound - 1)) (signed : Bool) :
    value ∉ integerRange signed bytes := by
  intro member
  cases signed with
  | true =>
    have above : -2 ^ (8 * bytes - 1) ≤ value := member.1
    have grown : (2 : Int) ^ (8 * bytes - 1) ≤ 2 ^ (8 * bound - 1) :=
      pow_le_pow_right₀ (by decide) (by omega)
    omega
  | false =>
    have above : 0 ≤ value := member.1
    have positive : (0 : Int) < 2 ^ (8 * bound - 1) := pow_pos (by decide) _
    omega

end Widths

/-- The primitive is of the right sign, holds the number, and is the least to do so: a width of half
its own is too small. -/
structure Primitive.Suits (primitive : Primitive) (value : Int) : Prop where
  fixed : 0 < primitive.fixedWidth
  unsigned : primitive.isSignedIntegral = false ↔ 0 ≤ value
  holds : value ∈ integerRange primitive.isSignedIntegral primitive.fixedWidth
  least : ∀ bytes, 0 < bytes → 2 * bytes ≤ primitive.fixedWidth →
    ∀ signed, value ∉ integerRange signed bytes

namespace Primitive

variable {primitive : Primitive} {value : Int} (width : Nat)

theorem Suits.of_unsigned (own : primitive.fixedWidth = width) (positive : 0 < width)
    (unsigned : primitive.isSignedIntegral = false) (low : 0 ≤ value)
    (high : value < 2 ^ (8 * width)) (half : width = 1 ∨ 2 ^ (8 * (width / 2)) ≤ value) :
    primitive.Suits value := by
  subst own
  refine ⟨positive, iff_of_true unsigned low, ?_, ?_⟩
  · rw [unsigned]
    exact ⟨low, high⟩
  · intro bytes present doubled
    rcases half with single | large
    · omega
    · exact not_mem_integerRange_of_large (by omega) large

theorem Suits.of_signed (own : primitive.fixedWidth = width) (positive : 0 < width)
    (signed : primitive.isSignedIntegral = true) (negative : value < 0)
    (low : -2 ^ (8 * width - 1) ≤ value) (half : width = 1 ∨ value < -2 ^ (8 * (width / 2) - 1)) :
    primitive.Suits value := by
  subst own
  refine ⟨positive, iff_of_false (by simp [signed]) (by omega), ?_, ?_⟩
  · rw [signed]
    have above : (0 : Int) < 2 ^ (8 * primitive.fixedWidth - 1) := pow_pos (by decide) _
    exact ⟨low, by omega⟩
  · intro bytes present doubled
    rcases half with single | below
    · omega
    · exact not_mem_integerRange_of_negative (by omega) below

end Primitive

section Literals

variable (pointerSize : Nat)

theorem naturalUnsigned_suits {value : Nat} (small : value < 2 ^ 64) :
    ∃ primitive,
      (TypeTable.ofPointerSize pointerSize).primitive? (naturalUnsigned value) = some primitive ∧
      primitive.Suits value := by
  unfold naturalUnsigned
  split
  · exact ⟨.byte, rfl, .of_unsigned 1 rfl (by decide) rfl (by omega) (by omega) (by omega)⟩
  · split
    · exact ⟨.uint16, rfl, .of_unsigned 2 rfl (by decide) rfl (by omega) (by omega) (by omega)⟩
    · split
      · exact ⟨.uint32, rfl, .of_unsigned 4 rfl (by decide) rfl (by omega) (by omega) (by omega)⟩
      · exact ⟨.uint64, rfl, .of_unsigned 8 rfl (by decide) rfl (by omega) (by omega) (by omega)⟩

theorem naturalSigned_suits {value : Int} (negative : value < 0) (small : -2 ^ 63 ≤ value) :
    ∃ primitive,
      (TypeTable.ofPointerSize pointerSize).primitive? (naturalSigned value) = some primitive ∧
      primitive.Suits value := by
  unfold naturalSigned
  split
  · exact ⟨.sbyte, rfl, .of_signed 1 rfl (by decide) rfl negative (by omega) (by omega)⟩
  · split
    · exact ⟨.int16, rfl, .of_signed 2 rfl (by decide) rfl negative (by omega) (by omega)⟩
    · split
      · exact ⟨.int32, rfl, .of_signed 4 rfl (by decide) rfl negative (by omega) (by omega)⟩
      · exact ⟨.int64, rfl, .of_signed 8 rfl (by decide) rfl negative (by omega) (by omega)⟩

theorem Constant.bounds_of_integral? {constant : Constant} {value : Int}
    (integral : constant.integral? = some value) :
    -2 ^ 63 ≤ value ∧ value < 2 ^ 64 := by
  cases constant with
  | int number =>
    cases integral
    have low := number.le_toInt
    have high := number.toInt_lt
    omega
  | uint number =>
    cases integral
    have high := number.toNat_lt
    omega
  | _ => cases integral

theorem Constant.naturalType?_suits {constant : Constant} {value : Int}
    (integral : constant.integral? = some value) :
    ∃ type primitive, constant.naturalType? = some type ∧
      (TypeTable.ofPointerSize pointerSize).primitive? type = some primitive ∧
      primitive.Suits value := by
  obtain ⟨low, high⟩ := bounds_of_integral? integral
  rw [naturalType?, integral, Option.map_some]
  split
  · rename_i nonnegative
    obtain ⟨primitive, tag, suits⟩ :=
      naturalUnsigned_suits pointerSize (by omega : value.toNat < 2 ^ 64)
    rw [Int.toNat_of_nonneg nonnegative] at suits
    exact ⟨_, primitive, rfl, tag, suits⟩
  · obtain ⟨primitive, tag, suits⟩ := naturalSigned_suits pointerSize (by omega : value < 0) low
    exact ⟨_, primitive, rfl, tag, suits⟩

end Literals

namespace Primitive

theorem fixedWidth_pos_iff (primitive : Primitive) :
    0 < primitive.fixedWidth ↔ primitive.isIntegral = true ∧ primitive.isNativeInteger = false := by
  cases primitive <;> decide

theorem double_fixedWidth_le {narrow wide : Primitive}
    (narrower : narrow.fixedWidth < wide.fixedWidth) :
    2 * narrow.fixedWidth ≤ wide.fixedWidth := by
  have widths (primitive : Primitive) : primitive.fixedWidth ∈ [0, 1, 2, 4, 8] := by
    cases primitive <;> decide
  have one := widths narrow
  have other := widths wide
  simp only [List.mem_cons, List.not_mem_nil, or_false] at one other
  omega

end Primitive

namespace TypeTable

variable {table : TypeTable} {id : TypeId}

theorem fixed_iff_exists_width :
    table.isIntegral id = true ∧ table.isNativeInteger id = false ↔
      ∃ primitive, table.primitive? id = some primitive ∧ 0 < primitive.fixedWidth := by
  cases tag : table.primitive? id with
  | none => simp [isIntegral, isNativeInteger, tag]
  | some primitive => simp [isIntegral, isNativeInteger, tag, primitive.fixedWidth_pos_iff]

variable (reachable : table.Reachable) {primitive : Primitive}

include reachable

/-- The tags of the well-known types are the same in every table. -/
theorem Reachable.primitive?_of_wellKnown
    (tag : (ofPointerSize table.pointerSize).primitive? id = some primitive) :
    table.primitive? id = some primitive := by
  have known : id.isWellKnown = true := by
    obtain ⟨info, found, _⟩ := Option.bind_eq_some_iff.mp tag
    exact decide_eq_true (Array.getElem?_eq_some_iff.mp found).1
  rw [primitive?, reachable.keepsWellKnown.wellKnown id known]
  exact tag

theorem Reachable.sizeInBytes_of_fixedWidth (tag : table.primitive? id = some primitive)
    (wide : 0 < primitive.fixedWidth) :
    table.sizeInBytes id = primitive.fixedWidth := by
  have integral : table.isIntegral id = true :=
    (fixed_iff_exists_width.mpr ⟨primitive, tag, wide⟩).1
  have category := (reachable.categoryTells id).integral.symm.trans integral
  obtain ⟨info, same, found, integer⟩ := reachable.exists_isInteger category
  cases tag.symm.trans (primitive?_of_isInteger found integer)
  exact (sizeInBytes_of_isInteger found integer).trans (integer.size wide)

theorem Reachable.valueRange_of_fixedWidth (tag : table.primitive? id = some primitive)
    (wide : 0 < primitive.fixedWidth) :
    table.valueRange id = integerRange primitive.isSignedIntegral primitive.fixedWidth := by
  rw [valueRange, reachable.sizeInBytes_of_fixedWidth tag wide, isSignedIntegral, tag,
    Option.any_some]

end TypeTable

/-- The natural type of a literal is an integer of fixed size that holds it, unsigned if the literal
is not negative and signed if it is, and no narrower integer of fixed size holds the literal, signed
or not. -/
theorem Constant.natural_type_least {types : TypeTable} (reachable : types.Reachable)
    {constant : Constant} {value : Int} (integral : constant.integral? = some value) :
    ∃ type, constant.naturalType? = some type ∧ types.isIntegral type = true ∧
      types.isNativeInteger type = false ∧
      value ∈ types.valueRange type ∧ (types.isSignedIntegral type = false ↔ 0 ≤ value) ∧
      ∀ other, types.isIntegral other = true → types.isNativeInteger other = false →
        types.sizeInBytes other < types.sizeInBytes type → value ∉ types.valueRange other := by
  obtain ⟨type, primitive, natural, wellKnown, suits⟩ :=
    naturalType?_suits types.pointerSize integral
  have tag := reachable.primitive?_of_wellKnown wellKnown
  obtain ⟨isIntegral, fixed⟩ := TypeTable.fixed_iff_exists_width.mpr ⟨primitive, tag, suits.fixed⟩
  refine ⟨type, natural, isIntegral, fixed, ?_, ?_, ?_⟩
  · rw [reachable.valueRange_of_fixedWidth tag suits.fixed]
    exact suits.holds
  · rw [TypeTable.isSignedIntegral, tag, Option.any_some]
    exact suits.unsigned
  · intro other otherIntegral otherFixed narrower
    obtain ⟨narrow, otherTag, wide⟩ :=
      TypeTable.fixed_iff_exists_width.mp ⟨otherIntegral, otherFixed⟩
    rw [reachable.sizeInBytes_of_fixedWidth otherTag wide,
      reachable.sizeInBytes_of_fixedWidth tag suits.fixed] at narrower
    rw [reachable.valueRange_of_fixedWidth otherTag wide]
    -- A narrower type has at most half the width, which is too small for either sign.
    exact suits.least _ wide (Primitive.double_fixedWidth_le narrower) _

/-- The first number below the signed bytes takes two bytes, since no byte holds it. -/
theorem Constant.below_sbyte_is_short :
    (TypeTable.ofPointerSize 8).Reachable ∧ (Constant.int (-129)).integral? = some (-129) ∧
      (Constant.int (-129)).naturalType? = some .short ∧
        -129 ∈ (TypeTable.ofPointerSize 8).valueRange .short ∧
      -129 ∉ (TypeTable.ofPointerSize 8).valueRange .sbyte ∧
        -129 ∉ (TypeTable.ofPointerSize 8).valueRange .byte := by
  have reachable : (TypeTable.ofPointerSize 8).Reachable := .start 8
  have integral : (Constant.int (-129)).integral? = some (-129) := by decide
  have short : (Constant.int (-129)).naturalType? = some .short := by decide
  obtain ⟨type, natural, _, _, holds, _, least⟩ := Constant.natural_type_least reachable integral
  cases short.symm.trans natural
  exact ⟨reachable, integral, short, holds, least .sbyte rfl rfl (by decide),
    least .byte rfl rfl (by decide)⟩

end DialectBinder
