import Mathlib.Data.Fintype.Pigeonhole
import Mathlib.Dynamics.PeriodicPts.Defs
import DialectBinder.Proofs.RegisteredTypes

/-! Arrays of arrays. Going from arrays to their element types comes to an end if every array is
registered after its element type. An array that comes first, or is its own element, can lead back
to itself, and such circles are the only way in which element types do not end. -/

namespace DialectBinder

def TypeInfo.element? (info : TypeInfo) : Option TypeId :=
  match info.shape with
  | .arrayOf element => some element
  | _ => none

theorem TypeInfo.element?_of_shape {info : TypeInfo} {element : TypeId}
    (array : info.shape = .arrayOf element) :
    info.element? = some element := by
  rw [TypeInfo.element?, array]

namespace TypeTable

/-- The element type of an array; any other type is its own. -/
def innerType (table : TypeTable) (id : TypeId) : TypeId := (table.element? id).getD id

/-- Going from arrays to their element types leads to a type that is no array, or to an unknown
one. -/
def ElementsEnd (table : TypeTable) (id : TypeId) : Prop :=
  ∃ steps, table.element? (table.innerType^[steps] id) = none

variable {table : TypeTable} {id element : TypeId}

theorem innerType_of_element? (array : table.element? id = some element) :
    table.innerType id = element := by
  rw [innerType, array, Option.getD_some]

theorem iterate_innerType_of_none (last : table.element? id = none) (steps : Nat) :
    table.innerType^[steps] id = id :=
  Function.iterate_fixed (by rw [innerType, last, Option.getD_none]) steps

theorem element?_eq_some_iff :
    table.element? id = some element ↔
      ∃ info, table.get? id = some info ∧ info.shape = .arrayOf element := by
  rw [element?, shape?]
  cases table.get? id with
  | none => simp
  | some info => cases shape : info.shape <;> simp [shape]

theorem index_lt_size_of_isSome (known : (table.get? id).isSome = true) :
    id.index < table.size := by
  obtain ⟨info, found⟩ := Option.isSome_iff_exists.mp known
  exact (Array.getElem?_eq_some_iff.mp found).1

theorem index_lt_size_of_element? (array : table.element? id ≠ none) : id.index < table.size := by
  obtain ⟨element, array⟩ := Option.ne_none_iff_exists'.mp array
  obtain ⟨info, found, _⟩ := element?_eq_some_iff.mp array
  exact index_lt_size_of_isSome (by rw [found]; rfl)

theorem element?_iterate_of_le {steps more : Nat} (le : steps ≤ more)
    (last : table.element? (table.innerType^[steps] id) = none) :
    table.element? (table.innerType^[more] id) = none := by
  have later : table.innerType^[more] id = table.innerType^[more - steps]
      (table.innerType^[steps] id) := by
    rw [← Function.iterate_add_apply, Nat.sub_add_cancel le]
  rw [later, iterate_innerType_of_none last]
  exact last

theorem elementsEnd_iterate_iff (steps : Nat) :
    table.ElementsEnd (table.innerType^[steps] id) ↔ table.ElementsEnd id := by
  constructor
  · rintro ⟨more, last⟩
    rw [← Function.iterate_add_apply] at last
    exact ⟨more + steps, last⟩
  · rintro ⟨more, last⟩
    refine ⟨more, ?_⟩
    rw [← Function.iterate_add_apply]
    exact element?_iterate_of_le (Nat.le_add_right more steps) last

/-- A type that is reached twice lies on a circle, and so does all that comes after it. -/
theorem isPeriodicPt_of_reached_twice {early late bound : Nat} (before : early ≤ late)
    (reached : early ≤ bound) (twice : table.innerType^[early] id = table.innerType^[late] id) :
    Function.IsPeriodicPt table.innerType (late - early) (table.innerType^[bound] id) := by
  have circle : Function.IsPeriodicPt table.innerType (late - early)
      (table.innerType^[early] id) := by
    rw [Function.IsPeriodicPt, Function.IsFixedPt, ← Function.iterate_add_apply,
      Nat.sub_add_cancel before, twice]
  have later := circle.apply_iterate (bound - early)
  rwa [← Function.iterate_add_apply, Nat.sub_add_cancel reached] at later

/-- As many steps as there are types lead to the end or into a circle. -/
theorem exists_period (array : table.element? (table.innerType^[table.size] id) ≠ none) :
    ∃ period > 0, Function.IsPeriodicPt table.innerType period
      (table.innerType^[table.size] id) := by
  have arrays (steps : Fin (table.size + 1)) : table.element? (table.innerType^[steps] id) ≠ none :=
    fun last => array (element?_iterate_of_le (Nat.le_of_lt_succ steps.isLt) last)
  -- There are more steps than types, so that two of them lead to the same type.
  obtain ⟨first, second, different, same⟩ := Fintype.exists_ne_map_eq_of_card_lt
    (fun steps : Fin (table.size + 1) =>
      (⟨(table.innerType^[steps] id).index, index_lt_size_of_element? (arrays steps)⟩ :
        Fin table.size)) (by simp)
  have twice : table.innerType^[first] id = table.innerType^[second] id :=
    congrArg TypeId.mk (Fin.mk.inj same)
  rcases Nat.lt_or_gt_of_ne (Fin.val_ne_of_ne different) with before | after
  · exact ⟨second - first, Nat.sub_pos_of_lt before,
      isPeriodicPt_of_reached_twice (Nat.le_of_lt before) (Nat.le_of_lt_succ first.isLt) twice⟩
  · exact ⟨first - second, Nat.sub_pos_of_lt after,
      isPeriodicPt_of_reached_twice (Nat.le_of_lt after) (Nat.le_of_lt_succ second.isLt) twice.symm⟩

theorem not_elementsEnd_of_isPeriodicPt {period : Nat} (positive : 0 < period)
    (circle : Function.IsPeriodicPt table.innerType period id) (array : table.element? id ≠ none) :
    ¬table.ElementsEnd id := by
  rintro ⟨steps, last⟩
  have rounds : table.innerType^[period * steps] id = id := circle.mul_const steps
  have enough : steps ≤ period * steps := Nat.le_mul_of_pos_left steps positive
  have ended := element?_iterate_of_le enough last
  rw [rounds] at ended
  exact array ended

/-- Element types that end do so within as many steps as there are types. -/
theorem elementsEnd_iff_within_size :
    table.ElementsEnd id ↔ table.element? (table.innerType^[table.size] id) = none := by
  constructor
  · intro ends
    by_contra array
    obtain ⟨period, positive, circle⟩ := exists_period array
    exact not_elementsEnd_of_isPeriodicPt positive circle array
      ((elementsEnd_iterate_iff table.size).mpr ends)
  · intro last
    exact ⟨table.size, last⟩

theorem elementsEnd_of_decreasing (id : TypeId)
    (decreasing : ∀ steps element, table.element? (table.innerType^[steps] id) = some element →
      element.index < (table.innerType^[steps] id).index) : table.ElementsEnd id := by
  cases array : table.element? id with
  | none => exact ⟨0, array⟩
  | some element =>
    have inner : table.innerType id = element := innerType_of_element? array
    have smaller : element.index < id.index := decreasing 0 element array
    have rest : table.ElementsEnd element := by
      apply elementsEnd_of_decreasing element
      intro steps next found
      rw [← inner, ← Function.iterate_succ_apply] at found ⊢
      exact decreasing (steps + 1) next found
    rw [← inner] at rest
    exact (elementsEnd_iterate_iff 1).mp rest
termination_by id.index

/-- Element types go on for ever exactly if they lead to an array that leads back to itself and came
no later than its element. -/
theorem not_elementsEnd_iff :
    ¬table.ElementsEnd id ↔
      ∃ steps element, table.element? (table.innerType^[steps] id) = some element ∧
        (table.innerType^[steps] id).index ≤ element.index ∧
        ∃ period > 0,
          table.innerType^[period] (table.innerType^[steps] id) = table.innerType^[steps] id := by
  constructor
  · intro unending
    have array : table.element? (table.innerType^[table.size] id) ≠ none :=
      mt elementsEnd_iff_within_size.mpr unending
    obtain ⟨period, positive, circle⟩ := exists_period array
    have unendingThere : ¬table.ElementsEnd (table.innerType^[table.size] id) :=
      mt (elementsEnd_iterate_iff table.size).mp unending
    -- On a circle the positions of the types cannot always fall.
    have rises : ∃ steps element,
        table.element? (table.innerType^[steps] (table.innerType^[table.size] id)) =
          some element ∧
        (table.innerType^[steps] (table.innerType^[table.size] id)).index ≤ element.index := by
      by_contra falls
      apply unendingThere
      apply elementsEnd_of_decreasing
      intro steps element found
      by_contra rise
      exact falls ⟨steps, element, found, Nat.le_of_not_lt rise⟩
    obtain ⟨steps, element, found, rise⟩ := rises
    have back := circle.apply_iterate steps
    rw [← Function.iterate_add_apply] at found rise back
    exact ⟨steps + table.size, element, found, rise, period, positive, back⟩
  · rintro ⟨steps, element, found, _, period, positive, back⟩ ends
    exact not_elementsEnd_of_isPeriodicPt positive back (by simp [found])
      ((elementsEnd_iterate_iff steps).mpr ends)

/-- One type is added, or found to be there; an array is made of a type that is there. -/
inductive RegistersInOrder (table : TypeTable) : TypeTable → Prop where
  | register (declaration : TypeDeclaration) : RegistersInOrder table (table.register declaration).1
  | pointerTo (pointee : TypeId) : RegistersInOrder table (table.pointerTo pointee).1
  | arrayOf (element : TypeId) (known : (table.get? element).isSome = true) :
      RegistersInOrder table (table.arrayOf element).1

/-- The tables that registration leads to if every array is made of a type that is there. -/
inductive ReachableInOrder : TypeTable → Prop where
  | start (pointerSize : Nat) : ReachableInOrder (.ofPointerSize pointerSize)
  | step {table later : TypeTable} (before : ReachableInOrder table)
      (registers : RegistersInOrder table later) :
      ReachableInOrder later

theorem ReachableInOrder.reachable {table : TypeTable} (inOrder : table.ReachableInOrder) :
    table.Reachable := by
  induction inOrder with
  | start pointerSize => exact .start pointerSize
  | step _ registers before =>
    refine .step before ?_
    cases registers with
    | register declaration => exact .register declaration
    | pointerTo pointee => exact .pointerTo pointee
    | arrayOf element _ => exact .arrayOf element

/-- Every array comes after its element. -/
def ArraysInOrder (table : TypeTable) : Prop :=
  ∀ id element, table.element? id = some element → element.index < id.index

theorem arraysInOrder_ofPointerSize (pointerSize : Nat) :
    (ofPointerSize pointerSize).ArraysInOrder := by
  intro id element array
  obtain ⟨info, found, shape⟩ := element?_eq_some_iff.mp array
  have checked : (ofPointerSize pointerSize).entries.toList.zipIdx.all (fun entry =>
      entry.1.element?.all fun element => element.index < entry.2) = true := rfl
  have entry := holds_of_checked checked found
  simpa [TypeInfo.element?_of_shape shape] using entry

theorem ArraysInOrder.intern (inOrder : table.ArraysInOrder) {info : TypeInfo}
    (known : ∀ element, info.shape = .arrayOf element → element.index < table.size) :
    (table.intern info).1.ArraysInOrder := by
  rcases table.intern_cases info with same | pushed
  · rw [same]
    exact inOrder
  · rw [pushed]
    intro id element array
    obtain ⟨other, found, shape⟩ := element?_eq_some_iff.mp array
    rw [get?_push] at found
    split at found
    · rename_i last
      cases found
      rw [last]
      exact known element shape
    · exact inOrder id element (element?_eq_some_iff.mpr ⟨other, found, shape⟩)

theorem ReachableInOrder.arraysInOrder (reachable : table.ReachableInOrder) :
    table.ArraysInOrder := by
  induction reachable with
  | start pointerSize => exact arraysInOrder_ofPointerSize pointerSize
  | step _ registers inOrder =>
    cases registers with
    | register declaration =>
      apply inOrder.intern
      intro element array
      cases shape : declaration.shape <;>
        simp [TypeDeclaration.toInfo, DeclaredShape.toShape, shape] at array
    | pointerTo pointee =>
      apply inOrder.intern
      intro element array
      cases array
    | arrayOf element known =>
      apply inOrder.intern
      intro other array
      cases array
      exact index_lt_size_of_isSome known

/-- Where arrays are made of types that are there, all element types end. -/
theorem ReachableInOrder.elementsEnd (reachable : table.ReachableInOrder) (id : TypeId) :
    table.ElementsEnd id :=
  elementsEnd_of_decreasing id fun _ element array => reachable.arraysInOrder _ element array

end TypeTable

end DialectBinder
