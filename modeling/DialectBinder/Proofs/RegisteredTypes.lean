import DialectBinder.Types.Category

/-! Type tables that grow by registration. The well-known types stay where they are, and what a
program adds carries no tag of a built-in type, so that the integers of a table are those of the
core language. -/

namespace DialectBinder

namespace TypeInfo

structure IsUntagged (info : TypeInfo) : Prop where
  primitive : info.primitive = none
  legacy : info.legacy = none

end TypeInfo

namespace TypeTable

/-- One type is added, or found to be there. -/
inductive Registers (table : TypeTable) : TypeTable → Prop where
  | register (declaration : TypeDeclaration) : Registers table (table.register declaration).1
  | pointerTo (pointee : TypeId) : Registers table (table.pointerTo pointee).1
  | arrayOf (element : TypeId) : Registers table (table.arrayOf element).1

/-- The tables that registration leads to from the well-known types. -/
inductive Reachable : TypeTable → Prop where
  | start (pointerSize : Nat) : Reachable (.ofPointerSize pointerSize)
  | step {table later : TypeTable} (before : Reachable table) (registers : Registers table later) :
      Reachable later

theorem get?_push (table : TypeTable) (info : TypeInfo) (id : TypeId) :
    (table.push info).get? id = if id.index = table.size then some info else table.get? id :=
  Array.getElem?_push

theorem holds_of_checked {table : TypeTable} {holds : TypeInfo × Nat → Bool}
    (checked : table.entries.toList.zipIdx.all holds = true) {id : TypeId} {info : TypeInfo}
    (found : table.get? id = some info) : holds (info, id.index) = true := by
  refine List.all_eq_true.mp checked (info, id.index) ?_
  rw [List.mem_zipIdx_iff_getElem?, Array.getElem?_toList]
  exact found

theorem intern_cases (table : TypeTable) (info : TypeInfo) :
    (table.intern info).1 = table ∨ (table.intern info).1 = table.push info := by
  unfold intern
  split
  · exact .inl rfl
  · exact .inr rfl

variable {table later : TypeTable}

/-- Every registration enters a type that carries no tag. -/
theorem Registers.exists_intern (registers : Registers table later) :
    ∃ info : TypeInfo, info.IsUntagged ∧ later = (table.intern info).1 := by
  cases registers with
  | register declaration => exact ⟨_, ⟨rfl, rfl⟩, rfl⟩
  | pointerTo pointee => exact ⟨_, ⟨rfl, rfl⟩, rfl⟩
  | arrayOf element => exact ⟨_, ⟨rfl, rfl⟩, rfl⟩

theorem Registers.cases (registers : Registers table later) :
    later = table ∨ ∃ info : TypeInfo, info.IsUntagged ∧ later = table.push info := by
  obtain ⟨info, untagged, rfl⟩ := registers.exists_intern
  exact (table.intern_cases info).imp_right fun pushed => ⟨info, untagged, pushed⟩

/-- The well-known types are in their places, and no other type looks like one of them. -/
structure KeepsWellKnown (table : TypeTable) : Prop where
  complete : TypeId.firstUser ≤ table.size
  wellKnown : ∀ id : TypeId, id.isWellKnown = true →
    table.get? id = (ofPointerSize table.pointerSize).get? id
  added : ∀ (id : TypeId) (info : TypeInfo), id.isWellKnown = false →
    table.get? id = some info → info.IsUntagged

theorem KeepsWellKnown.start (pointerSize : Nat) : (ofPointerSize pointerSize).KeepsWellKnown where
  complete := Nat.le_refl TypeId.firstUser
  wellKnown _ _ := rfl
  added id info user present := by
    have outside : TypeId.firstUser ≤ id.index := by simpa [TypeId.isWellKnown] using user
    rw [get?, Array.getElem?_eq_none outside] at present
    cases present

theorem KeepsWellKnown.push (keeps : table.KeepsWellKnown) {info : TypeInfo}
    (untagged : info.IsUntagged) :
    (table.push info).KeepsWellKnown where
  complete := by
    have grown : (table.push info).size = table.size + 1 := Array.size_push info
    have complete := keeps.complete
    omega
  wellKnown id inside := by
    have complete := keeps.complete
    have before : id.index < TypeId.firstUser := by simpa [TypeId.isWellKnown] using inside
    rw [get?_push, if_neg (by omega)]
    exact keeps.wellKnown id inside
  added id other user present := by
    rw [get?_push] at present
    split at present
    · cases present
      exact untagged
    · exact keeps.added id other user present

/-- What holds of the well-known types and of all that can be registered holds of every type. -/
theorem Reachable.forall_info (reachable : table.Reachable) (holds : TypeInfo → Prop)
    (wellKnown : ∀ pointerSize, ∀ info ∈ wellKnownTypes pointerSize, holds info)
    (declared : ∀ declaration : TypeDeclaration, holds declaration.toInfo)
    (pointer : ∀ name pointee size, holds (.pointer name pointee size))
    (array : ∀ name element, holds (.array name element)) : ∀ info ∈ table.entries, holds info := by
  induction reachable with
  | start pointerSize => exact wellKnown pointerSize
  | @step table later _ registers known =>
    have interned {added : TypeInfo} (new : holds added) :
        ∀ info ∈ (table.intern added).1.entries, holds info := by
      intro info member
      rcases table.intern_cases added with same | pushed
      · exact known info (same ▸ member)
      · rw [pushed] at member
        rcases Array.mem_push.mp member with old | rfl
        · exact known info old
        · exact new
    cases registers with
    | register declaration => exact interned (declared declaration)
    | pointerTo pointee => exact interned (pointer _ pointee _)
    | arrayOf element => exact interned (array _ element)

theorem Reachable.keepsWellKnown (reachable : table.Reachable) : table.KeepsWellKnown := by
  induction reachable with
  | start pointerSize => exact .start pointerSize
  | step _ registers kept =>
    rcases registers.cases with rfl | ⟨info, untagged, rfl⟩
    · exact kept
    · exact kept.push untagged

end TypeTable

/-- Size in bytes of an integer that has the same size on all platforms, zero for any other type. -/
def Primitive.fixedWidth : Primitive → Nat
  | .sbyte | .byte => 1
  | .int16 | .uint16 => 2
  | .int32 | .uint32 => 4
  | .int64 | .uint64 => 8
  | _ => 0

theorem Primitive.fixedWidth_lt_of_widensTo {narrow wide : Primitive}
    (widens : narrow.widensTo wide = true)
    (integers : (narrow.isIntegral && wide.isIntegral) = true) :
    0 < narrow.fixedWidth ∧ narrow.fixedWidth < wide.fixedWidth := by
  revert widens integers
  cases narrow <;> cases wide <;> decide

namespace TypeInfo

/-- The entry of a built-in integer, which is a plain value. -/
structure IsInteger (info : TypeInfo) (primitive : Primitive) : Prop where
  shape : info.shape = .structType
  plain : info.operators = []
  tag : info.primitive = some primitive
  integral : primitive.isIntegral = true
  size : 0 < primitive.fixedWidth → info.size = primitive.fixedWidth

def isInteger (info : TypeInfo) : Bool :=
  info.shape == .structType && info.operators.isEmpty &&
    info.primitive.any fun primitive =>
      primitive.isIntegral && (primitive.fixedWidth == 0 || info.size == primitive.fixedWidth)

theorem exists_isInteger {info : TypeInfo} (integer : info.isInteger = true) :
    ∃ primitive, info.IsInteger primitive := by
  simp only [isInteger, Bool.and_eq_true, beq_iff_eq, List.isEmpty_iff, Option.any_eq_true,
    Bool.or_eq_true] at integer
  obtain ⟨⟨shape, plain⟩, primitive, tag, integral, size⟩ := integer
  exact ⟨primitive, shape, plain, tag, integral, fun fixed =>
    size.resolve_left (Nat.ne_of_gt fixed)⟩

theorem category_of_untagged {info : TypeInfo} (untagged : info.IsUntagged) :
    info.category = info.shapeCategory := by
  simp [category, untagged.primitive, untagged.legacy]

theorem isIntegral_category_of_untagged {info : TypeInfo} (untagged : info.IsUntagged) :
    info.category.isIntegral = false := by
  rw [category_of_untagged untagged]
  unfold shapeCategory
  split <;> rfl

theorem isInteger_of_wellKnown {pointerSize : Nat} {info : TypeInfo}
    (member : info ∈ wellKnownTypes pointerSize) (integral : info.category.isIntegral = true) :
    info.isInteger = true := by
  have checked : (wellKnownTypes pointerSize).toList.all (fun info =>
      !info.category.isIntegral || info.isInteger) =
      true := rfl
  have entry := List.all_eq_true.mp checked info (Array.mem_toList_iff.mpr member)
  simpa [integral] using entry

end TypeInfo

namespace TypeTable

variable {table : TypeTable}

theorem Reachable.exists_isInteger (reachable : table.Reachable) {id : TypeId}
    (integral : (table.category id).isIntegral = true) :
    ∃ info primitive, table.get? id = some info ∧ info.IsInteger primitive := by
  have keeps := reachable.keepsWellKnown
  unfold category at integral
  split at integral
  · rename_i info present
    cases known : id.isWellKnown with
    | true =>
      have entry : (wellKnownTypes table.pointerSize)[id.index]? = some info :=
        (keeps.wellKnown id known).symm.trans present
      have integer := TypeInfo.isInteger_of_wellKnown (Array.mem_of_getElem? entry) integral
      obtain ⟨primitive, isInteger⟩ := TypeInfo.exists_isInteger integer
      exact ⟨info, primitive, present, isInteger⟩
    | false =>
      rw [TypeInfo.isIntegral_category_of_untagged (keeps.added id info known present)] at integral
      cases integral
  · cases integral

end TypeTable

end DialectBinder
