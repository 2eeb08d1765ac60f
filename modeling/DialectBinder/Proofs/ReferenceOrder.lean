import DialectBinder.Proofs.References

/-! Conversions of references one after the other. Each of the four ways to convert a reference can
be followed by each other one, and the two together are one of these ways again, if the types are
linked as those of a program are. -/

namespace DialectBinder

namespace TypeTable

/-- Types linked as a program links them: all links lead to earlier types, interfaces have no base,
classes and delegates have classes as their bases, and no path is too long for the walks. -/
structure WellLinked (table : TypeTable) : Prop where
  elements_before : table.ArraysInOrder
  bases_before : ∀ id base, table.HasBase id base → base.index < id.index
  interfaces_before : ∀ id interface, table.HasInterface id interface → interface.index < id.index
  interfaces_rootless : ∀ id base, table.isInterface id = true → ¬table.HasBase id base
  class_bases : ∀ id base, table.isClass id = true ∨ table.isDelegate id = true →
    table.HasBase id base →
    table.isClass base = true
  paths_bounded : table.PathsBounded

section Paths

variable {table : TypeTable} {source middle target : TypeId}

theorem WellLinked.isClass_of_leads (linked : table.WellLinked) {links : Nat}
    (path : Leads table.HasBase links source target) (isClass : table.isClass source = true) :
    table.isClass target = true := by
  induction path with
  | here => exact isClass
  | next first _ ih => exact ih (linked.class_bases _ _ (.inl isClass) first)

/-- From an interface the walk for interfaces goes along interfaces alone. -/
theorem WellLinked.extends_of_implements (linked : table.WellLinked)
    (abstract : table.isInterface source = true)
    (implements : table.implementsInterface source target = true) :
    ∃ links, Leads table.HasInterface (links + 1) source target := by
  obtain ⟨up, holder, links, climb, path⟩ :=
    linked.paths_bounded.implementsInterface_iff.mp implements
  obtain ⟨_, rfl⟩ := climb.eq_of_no_link fun base => linked.interfaces_rootless source base abstract
  exact ⟨links, path⟩

theorem WellLinked.implements_trans (linked : table.WellLinked)
    (abstract : table.isInterface middle = true)
    (first : table.implementsInterface source middle = true)
    (second : table.implementsInterface middle target = true) :
    table.implementsInterface source target = true := by
  obtain ⟨up, holder, links, climb, path⟩ := linked.paths_bounded.implementsInterface_iff.mp first
  obtain ⟨more, rest⟩ := linked.extends_of_implements abstract second
  exact linked.paths_bounded.implementsInterface_iff.mpr ⟨up, holder, links + 1 + more, climb,
    path.trans rest⟩

theorem PathsBounded.implements_of_derives (bounded : table.PathsBounded)
    (derives : table.derivesFrom source middle = true)
    (implements : table.implementsInterface middle target = true) :
    table.implementsInterface source target = true := by
  obtain ⟨_, links, climb⟩ := bounded.derivesFrom_iff.mp derives
  obtain ⟨up, holder, steps, further, path⟩ := bounded.implementsInterface_iff.mp implements
  exact bounded.implementsInterface_iff.mpr ⟨links + up, holder, steps, climb.trans further, path⟩

theorem PathsBounded.derives_trans (bounded : table.PathsBounded)
    (first : table.derivesFrom source middle = true)
    (second : table.derivesFrom middle target = true) : table.derivesFrom source target = true := by
  obtain ⟨_, links, climb⟩ := bounded.derivesFrom_iff.mp first
  obtain ⟨known, more, further⟩ := bounded.derivesFrom_iff.mp second
  exact bounded.derivesFrom_iff.mpr ⟨known, links + more, climb.trans further⟩

end Paths

section Arrays

variable {table : TypeTable} (reachable : table.Reachable) {source target element : TypeId}

include reachable

theorem Reachable.hasBase_of_array (array : table.element? source = some element) :
    table.HasBase source target ↔ target = .object := by
  obtain ⟨name, found⟩ := reachable.exists_array array
  rw [hasBase_iff found]
  simp [TypeInfo.array, eq_comm]

theorem Reachable.not_hasBase_object : ¬table.HasBase .object target := by
  rw [hasBase_iff reachable.get?_object]
  simp

theorem Reachable.isClass_object : table.isClass .object = true := by
  simp [isClass, shape?, reachable.get?_object]

theorem Reachable.derivesFrom_object (derives : table.derivesFrom .object target = true) :
    target = .object := by
  obtain ⟨_, _, _, climb⟩ := derivesWithin_iff.mp derives
  exact (climb.eq_of_no_link fun _ => reachable.not_hasBase_object).2.symm

theorem Reachable.not_hasInterface_above_object {links : Nat}
    (climb : Leads table.HasBase links .object source) :
    ¬table.HasInterface source target := by
  obtain ⟨_, rfl⟩ := climb.eq_of_no_link fun _ => reachable.not_hasBase_object
  rw [hasInterface_iff reachable.get?_object]
  simp

theorem Reachable.not_implements_of_object : ¬table.implementsInterface .object target = true := by
  intro implements
  obtain ⟨_, _, holder, climb, _, _, path⟩ := implementsWithin_iff.mp implements
  obtain ⟨_, first, _⟩ := Leads.succ_iff.mp path
  exact reachable.not_hasInterface_above_object climb first

theorem Reachable.not_implements_of_array (array : table.element? source = some element) :
    ¬table.implementsInterface source target = true := by
  intro implements
  obtain ⟨name, found⟩ := reachable.exists_array array
  obtain ⟨_, _, holder, climb, _, _, path⟩ := implementsWithin_iff.mp implements
  obtain ⟨_, first, _⟩ := Leads.succ_iff.mp path
  cases climb with
  | here => simp [hasInterface_iff found, TypeInfo.array] at first
  | next base further =>
    rw [reachable.hasBase_of_array array] at base
    subst base
    exact reachable.not_hasInterface_above_object further first

theorem Reachable.eq_of_derives_array (linked : table.WellLinked)
    (reference : table.isReferenceType source = true)
    (derives : table.derivesFrom source target = true)
    (array : table.element? target = some element) :
    source = target := by
  obtain ⟨_, _, _, climb⟩ := derivesWithin_iff.mp derives
  cases climb with
  | here => rfl
  | @next _ _ middle _ first rest =>
    have classMiddle : table.isClass middle = true := by
      rcases isReferenceType_cases reference with ofClass | ofDelegate | ⟨_, ofArray⟩ | abstract
      · exact linked.class_bases _ _ (.inl ofClass) first
      · exact linked.class_bases _ _ (.inr ofDelegate) first
      · rw [(reachable.hasBase_of_array ofArray).mp first]
        exact reachable.isClass_object
      · exact False.elim (linked.interfaces_rootless _ _ abstract first)
    have root := linked.isClass_of_leads rest classMiddle
    obtain ⟨info, found, shape⟩ := element?_eq_some_iff.mp array
    simp [isClass, shape?, found, shape] at root

/-- A reference to an array converts to an object, or to an array of what the elements convert
to. -/
theorem Reachable.refers_cases_of_array (array : table.element? source = some element)
    (refers : table.Refers source target) :
    table.isObject target = true ∨ target = source ∨
      ∃ other, table.element? target = some other ∧
        (other = element ∨ table.Refers element other) := by
  cases refers with
  | object _ root => exact .inl root
  | interface _ _ implements =>
    exact False.elim (reachable.not_implements_of_array array implements)
  | base _ _ derives =>
    rw [reachable.derivesFrom_of_array array, Bool.or_eq_true, beq_iff_eq, beq_iff_eq] at derives
    rcases derives with same | root
    · exact .inr (.inl same.symm)
    · exact .inl (root ▸ reachable.isObject_object)
  | sameElements sourceArray targetArray =>
    rw [array] at sourceArray
    exact .inr (.inr ⟨_, targetArray, .inl (Option.some.inj sourceArray).symm⟩)
  | elements sourceArray targetArray inner =>
    rw [array] at sourceArray
    cases sourceArray
    exact .inr (.inr ⟨_, targetArray, .inr inner⟩)

end Arrays

section Composition

variable {table : TypeTable} (reachable : table.Reachable) (linked : table.WellLinked)
    {first second third : TypeId}

include reachable linked

/-- Every two ways to convert a reference make one. -/
theorem Refers.trans (one : table.Refers first second) (other : table.Refers second third) :
    table.Refers first third := by
  -- An array is compared by its elements in both steps, or else the second step goes to the root of
  -- all classes.
  induction one generalizing third with
  | object reference root =>
    cases reachable.eq_object_of_isObject root
    cases other with
    | object _ root => exact .object reference root
    | interface _ _ implements => exact False.elim (reachable.not_implements_of_object implements)
    | base _ _ derives =>
      cases reachable.derivesFrom_object derives
      exact .object reference root
    | sameElements array _ =>
      exact False.elim (by simp [reachable.isObject_of_element? array] at root)
    | elements array _ _ =>
      exact False.elim (by simp [reachable.isObject_of_element? array] at root)
  | interface reference abstract implements =>
    cases other with
    | object _ root => exact .object reference root
    | interface _ target further =>
      exact .interface reference target (linked.implements_trans abstract implements further)
    | base _ concrete derives =>
      obtain ⟨_, _, climb⟩ := linked.paths_bounded.derivesFrom_iff.mp derives
      obtain ⟨_, rfl⟩ := climb.eq_of_no_link fun base => linked.interfaces_rootless _ base abstract
      exact False.elim (by simp [concrete] at abstract)
    | sameElements array _ => exact False.elim (by simp [isInterface_of_element? array] at abstract)
    | elements array _ _ => exact False.elim (by simp [isInterface_of_element? array] at abstract)
  | base reference concrete derives =>
    cases other with
    | object _ root => exact .object reference root
    | interface _ target implements =>
      exact .interface reference target
        (linked.paths_bounded.implements_of_derives derives implements)
    | base _ target further =>
      exact .base reference target (linked.paths_bounded.derives_trans derives further)
    | sameElements array targetArray =>
      cases reachable.eq_of_derives_array linked reference derives array
      exact .sameElements array targetArray
    | elements array targetArray inner =>
      cases reachable.eq_of_derives_array linked reference derives array
      exact .elements array targetArray inner
  | sameElements sourceArray middleArray =>
    rcases reachable.refers_cases_of_array middleArray other with root | rfl |
      ⟨_, targetArray, rfl | inner⟩
    · exact .object (isReferenceType_of_element? sourceArray) root
    · exact .sameElements sourceArray middleArray
    · exact .sameElements sourceArray targetArray
    · exact .elements sourceArray targetArray inner
  | elements sourceArray middleArray inner ih =>
    rcases reachable.refers_cases_of_array middleArray other with root | rfl |
      ⟨_, targetArray, rfl | further⟩
    · exact .object (isReferenceType_of_element? sourceArray) root
    · exact .elements sourceArray middleArray inner
    · exact .elements sourceArray targetArray inner
    · exact .elements sourceArray targetArray (ih further)

/-- Conversions of references compose. If the core language takes references of a first type for
references of a second, unchanged or converted, and those for references of a third type, then it
takes the first for the third. -/
theorem reference_conversions_compose (ofFirst : table.isReferenceType first = true)
    (ofSecond : table.isReferenceType second = true)
    (one : table.standardImplicit first second = .identity ∨
      table.standardImplicit first second = .implicitReference)
    (other : table.standardImplicit second third = .identity ∨
      table.standardImplicit second third = .implicitReference) :
    table.standardImplicit first third = .identity ∨
      table.standardImplicit first third = .implicitReference := by
  have reason {source target : TypeId} (reference : table.isReferenceType source = true) :
      _ ↔ source = target ∨ table.Refers source target :=
    reachable.convertsReference_iff linked.elements_before reference
  rw [reason ofFirst] at one ⊢
  rw [reason ofSecond] at other
  rcases one with rfl | one
  · exact other
  · rcases other with rfl | other
    · exact .inr one
    · exact .inr (one.trans reachable linked other)

end Composition

section Checked

/-- Whether the links of an entry are in order: they lead to earlier places, an interface has no
base, and the base of a class or a delegate is a class. -/
def isLinkedAt (table : TypeTable) (place : Nat) (info : TypeInfo) : Bool :=
  info.element?.all (·.index < place) && info.base.all (·.index < place) &&
    info.interfaces.all (·.index < place) &&
    match info.shape with
    | .interfaceType => info.base.isNone
    | .classType | .delegateType _ => info.base.all table.isClass
    | _ => true

variable {table : TypeTable}

/-- Links that lead to earlier types make paths no longer than there are types before. -/
theorem index_add_links_le
    (before : ∀ id parent, table.HasParent id parent → parent.index < id.index) {links : Nat}
    {source target : TypeId} (path : Leads table.HasParent links source target) :
    target.index + links ≤ source.index := by
  induction path with
  | here => exact Nat.le_refl _
  | next first _ ih =>
    have falls := before _ _ first
    omega

theorem pathsBounded_of_size
    (before : ∀ id parent, table.HasParent id parent → parent.index < id.index)
    (few : table.size ≤ maxBaseDepth + 1) : table.PathsBounded := by
  intro links source target path
  cases path with
  | here => exact Nat.zero_le _
  | next first rest =>
    have known : source.index < table.size := by
      rcases first with ⟨info, found, _⟩ | ⟨info, found, _⟩
      · exact index_lt_size_of_isSome (by rw [found]; rfl)
      · exact index_lt_size_of_isSome (by rw [found]; rfl)
    have short := index_add_links_le before (.next first rest)
    omega

variable (checked : (table.entries.toList.zipIdx.all fun entry =>
    table.isLinkedAt entry.2 entry.1) = true)

include checked

theorem isLinkedAt_of_checked {id : TypeId} {info : TypeInfo} (found : table.get? id = some info) :
    table.isLinkedAt id.index info = true :=
  holds_of_checked checked found

theorem base_before_of_checked {id base : TypeId} (named : table.HasBase id base) :
    base.index < id.index := by
  obtain ⟨info, found, named⟩ := named
  have entry := isLinkedAt_of_checked checked found
  simp only [isLinkedAt, Bool.and_eq_true, named, Option.all_some, decide_eq_true_eq] at entry
  exact entry.1.1.2

theorem interface_before_of_checked {id interface : TypeId}
    (named : table.HasInterface id interface) :
    interface.index < id.index := by
  obtain ⟨info, found, named⟩ := named
  have entry := isLinkedAt_of_checked checked found
  simp only [isLinkedAt, Bool.and_eq_true, List.all_eq_true, decide_eq_true_eq] at entry
  exact entry.1.2 interface named

/-- It takes a look at each entry to see that types are well linked, if there are not too many. -/
theorem wellLinked_of_checked (few : table.size ≤ maxBaseDepth + 1) : table.WellLinked where
  elements_before id element array := by
    obtain ⟨info, found, shape⟩ := element?_eq_some_iff.mp array
    have entry := isLinkedAt_of_checked checked found
    simp only [isLinkedAt, Bool.and_eq_true, TypeInfo.element?_of_shape shape, Option.all_some,
      decide_eq_true_eq] at entry
    exact entry.1.1.1
  bases_before _ _ named := base_before_of_checked checked named
  interfaces_before _ _ named := interface_before_of_checked checked named
  interfaces_rootless id base abstract named := by
    obtain ⟨info, found, named⟩ := named
    have entry := isLinkedAt_of_checked checked found
    have shape : info.shape = .interfaceType := by simpa [isInterface, shape?, found] using abstract
    simp [isLinkedAt, named, shape] at entry
  class_bases id base derived named := by
    obtain ⟨info, found, named⟩ := named
    have entry := isLinkedAt_of_checked checked found
    simp only [isLinkedAt, Bool.and_eq_true, named, Option.all_some] at entry
    rcases derived with ofClass | ofDelegate
    · have shape : info.shape = .classType := by simpa [isClass, shape?, found] using ofClass
      simpa [shape] using entry.2
    · obtain ⟨parameters, shape⟩ : ∃ parameters, info.shape = .delegateType parameters := by
        cases shape : info.shape <;>
          simp [isDelegate, delegateParameters?, shape?, found, shape] at ofDelegate ⊢
      simpa [shape] using entry.2
  paths_bounded := by
    apply pathsBounded_of_size _ few
    intro id parent named
    rcases named with named | named
    · exact base_before_of_checked checked named
    · exact interface_before_of_checked checked named

end Checked

/-- Dogs are animals, animals are pets and pets have names; with arrays of these, and arrays of such
arrays. -/
def kennel : TypeTable :=
  let declared := [
    ({ name := "INamed", shape := .interfaceType } : TypeDeclaration),
    { name := "IPet", shape := .interfaceType, interfaces := [⟨33⟩] },
    { name := "Animal", shape := .classType, interfaces := [⟨34⟩] },
    { name := "Dog", shape := .classType, base := some ⟨35⟩ }].foldl
      (fun table declaration => (table.register declaration).1) (ofPointerSize 8)
  [⟨36⟩, ⟨35⟩, ⟨33⟩, ⟨37⟩, ⟨38⟩, ⟨39⟩].foldl (fun table element =>
    (table.arrayOf element).1) declared

/-- Arrays of arrays of dogs are arrays of arrays of animals, those are arrays of arrays of what has
a name, and so are the first. -/
theorem kennel_rows_compose :
    kennel.Reachable ∧ kennel.WellLinked ∧ kennel.standardImplicit ⟨40⟩ ⟨41⟩ = .implicitReference ∧
      kennel.standardImplicit ⟨41⟩ ⟨42⟩ = .implicitReference ∧
      (kennel.standardImplicit ⟨40⟩ ⟨42⟩ = .identity ∨
        kennel.standardImplicit ⟨40⟩ ⟨42⟩ = .implicitReference) := by
  have reachable : kennel.Reachable := by
    iterate 6 refine .step ?_ (.arrayOf _)
    iterate 4 refine .step ?_ (.register _)
    exact .start 8
  have evaluated : kennel.size ≤ maxBaseDepth + 1 ∧
      (kennel.entries.toList.zipIdx.all fun entry => kennel.isLinkedAt entry.2 entry.1) = true ∧
      kennel.isReferenceType ⟨40⟩ = true ∧ kennel.isReferenceType ⟨41⟩ = true ∧
      kennel.standardImplicit ⟨40⟩ ⟨41⟩ = .implicitReference ∧
      kennel.standardImplicit ⟨41⟩ ⟨42⟩ = .implicitReference := by decide +kernel
  obtain ⟨few, checked, ofFirst, ofSecond, one, other⟩ := evaluated
  have linked : kennel.WellLinked := wellLinked_of_checked checked few
  exact ⟨reachable, linked, one, other,
    reference_conversions_compose reachable linked ofFirst ofSecond (.inr one) (.inr other)⟩

end TypeTable

end DialectBinder
