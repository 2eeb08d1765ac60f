import DialectBinder.Proofs.TypeKeys

/-! Pointers to types and arrays of them. Such a type is named after the type it is made of, as that
is called at the time. A type keeps its name once it is there, so that what is made of it is made
once and for all. What is made of a type that is not there yet has a name for the time being, and is
made a second time when the type has come. -/

namespace DialectBinder

/-- The two ways to make a type of another one, its part. -/
inductive Construction where
  | pointer
  | array
deriving DecidableEq, Repr

namespace Construction

def shape : Construction → TypeId → TypeShape
  | pointer => .pointerTo
  | array => .arrayOf

def suffix : Construction → String
  | pointer => "*"
  | array => "[]"

def make (construction : Construction) (table : TypeTable) (part : TypeId) : TypeTable × TypeId :=
  match construction with
  | pointer => table.pointerTo part
  | array => table.arrayOf part

theorem make_registers (construction : Construction) (table : TypeTable) (part : TypeId) :
    table.Registers (construction.make table part).1 := by
  cases construction with
  | pointer => exact .pointerTo part
  | array => exact .arrayOf part

/-- What is made of a part is entered under its name and with the shape of the construction. -/
theorem exists_enters (construction : Construction) (table : TypeTable) (part : TypeId) :
    ∃ info, info.name = table.name part ++ construction.suffix ∧
      info.shape = construction.shape part ∧
      table.Enters info (construction.make table part) := by
  cases construction with
  | pointer => exact ⟨_, rfl, rfl, TypeTable.enters_intern table _⟩
  | array => exact ⟨_, rfl, rfl, TypeTable.enters_intern table _⟩

end Construction

/-- How a type is made of which part, if it is. -/
def TypeInfo.construction? (info : TypeInfo) : Option (Construction × TypeId) :=
  match info.shape with
  | .pointerTo pointee => some (.pointer, pointee)
  | .arrayOf element => some (.array, element)
  | _ => none

theorem TypeInfo.construction?_eq_some_iff {info : TypeInfo} {construction : Construction}
    {part : TypeId} :
    info.construction? = some (construction, part) ↔ info.shape = construction.shape part := by
  unfold TypeInfo.construction?
  cases construction <;> cases info.shape <;> simp [Construction.shape]

namespace TypeTable

variable {table later : TypeTable} {id part : TypeId} {info : TypeInfo}
    {construction : Construction}

theorem name_of_unknown (unknown : table.get? id = none) : table.name id = "<unknown>" := by
  simp [name, unknown]

theorem name_of_size_le (outside : table.size ≤ id.index) : table.name id = "<unknown>" :=
  name_of_unknown (Array.getElem?_eq_none outside)

theorem GrowsTo.hasKey (grown : table.GrowsTo later) {name : String} {shape : TypeShape}
    (key : table.HasKey id name shape) : later.HasKey id name shape := by
  unfold HasKey
  rw [grown.get?_eq key.index_lt]
  exact key

theorem GrowsTo.name_eq (grown : table.GrowsTo later) (inside : id.index < table.size) :
    later.name id = table.name id := by
  simp [name, grown.get?_eq inside]

/-- A name changes only from that of a type which is not there. -/
theorem GrowsTo.name_eq_iff (grown : table.GrowsTo later) :
    later.name id = table.name id ↔
      (table.get? id).isSome = true ∨ later.name id = "<unknown>" := by
  cases found : table.get? id with
  | none => simp [name_of_unknown found]
  | some info => simp [grown.name_eq (Array.getElem?_eq_some_iff.mp found).1]

/-- The name that a type had when the one at another place was added. -/
def nameBefore (table : TypeTable) (id part : TypeId) : String :=
  if part.index < id.index then table.name part else "<unknown>"

/-- Every pointer and every array is named after what its part was called when it was made. -/
def NamedAfterParts (table : TypeTable) : Prop :=
  ∀ id info construction part, table.get? id = some info →
    info.construction? = some (construction, part) →
    info.name = table.nameBefore id part ++ construction.suffix

theorem namedAfterParts_ofPointerSize (pointerSize : Nat) :
    (ofPointerSize pointerSize).NamedAfterParts := by
  have checked : (ofPointerSize pointerSize).entries.toList.zipIdx.all (fun entry =>
      entry.1.construction?.all fun made =>
        entry.1.name == (ofPointerSize pointerSize).nameBefore ⟨entry.2⟩ made.2 ++ made.1.suffix) =
          true := rfl
  intro id info construction part found made
  have entry := holds_of_checked checked found
  simpa [made] using entry

/-- Entering a type keeps the names of the others, and its own is that of its part. -/
theorem NamedAfterParts.intern (named : table.NamedAfterParts)
    (own : ∀ construction part, info.construction? = some (construction, part) →
      info.name = table.name part ++ construction.suffix) :
        (table.intern info).1.NamedAfterParts := by
  rcases table.intern_cases info with same | pushed
  · rw [same]
    exact named
  · rw [pushed]
    intro id other construction part found made
    have names (inside : part.index < table.size) :
        (table.push info).name part = table.name part := by
      simp [name, get?_push, Nat.ne_of_lt inside]
    rw [get?_push] at found
    split at found
    · rename_i last
      cases found
      rw [own construction part made, nameBefore, last]
      split
      · rename_i inside
        rw [names inside]
      · rename_i outside
        rw [name_of_size_le (Nat.le_of_not_lt outside)]
    · have present : id.index < table.size := (Array.getElem?_eq_some_iff.mp found).1
      rw [named id other construction part found made, nameBefore, nameBefore]
      split
      · rename_i before
        rw [names (Nat.lt_trans before present)]
      · rfl

theorem Reachable.namedAfterParts (reachable : table.Reachable) : table.NamedAfterParts := by
  induction reachable with
  | start pointerSize => exact namedAfterParts_ofPointerSize pointerSize
  | step _ registers named =>
    cases registers with
    | register declaration =>
      apply named.intern
      intro construction part made
      cases shape : declaration.shape <;>
        simp [TypeInfo.construction?, TypeDeclaration.toInfo, DeclaredShape.toShape, shape] at made
    | pointerTo pointee =>
      apply named.intern
      intro construction part made
      cases made
      rfl
    | arrayOf element =>
      apply named.intern
      intro construction part made
      cases made
      rfl

/-- What was made of a part is made again exactly if the part is still called the same. -/
theorem make_again_iff (reachable : table.Reachable)
    (grown : (construction.make table part).1.GrowsTo later) :
    (construction.make later part).2 = (construction.make table part).2 ↔
    later.name part = table.name part := by
  obtain ⟨first, firstName, firstShape, firstEnters⟩ := construction.exists_enters table part
  obtain ⟨second, secondName, secondShape, secondEnters⟩ := construction.exists_enters later part
  have madeReachable : (construction.make table part).1.Reachable :=
    .step reachable (construction.make_registers table part)
  have laterReachable : later.Reachable := grown.reachable madeReachable
  have made := grown.hasKey ((madeReachable.keysInverse _ _ _).mp firstEnters.own)
  constructor
  · intro same
    have againReachable : (construction.make later part).1.Reachable :=
      .step laterReachable (construction.make_registers later part)
    have again := (againReachable.keysInverse _ _ _).mp secondEnters.own
    have still : GrowsTo later (construction.make later part).1 :=
      .single (construction.make_registers later part)
    obtain ⟨info, found, isFirst, _⟩ := still.hasKey made
    obtain ⟨other, foundAgain, isSecond, _⟩ := again
    rw [same, found] at foundAgain
    cases foundAgain
    rw [isFirst, firstName, secondName, String.append_left_inj] at isSecond
    exact isSecond.symm
  · intro same
    have key : later.HasKey (construction.make table part).2 second.name second.shape := by
      rw [secondName, secondShape, same, ← firstName, ← firstShape]
      exact made
    rw [secondEnters.known _ ((laterReachable.keysInverse _ _ _).mpr key)]

/-- Of two types made of one part in the same way, the one was made before the part was there and
the other after that. -/
theorem Reachable.made_twice (reachable : table.Reachable) {first second : TypeId}
    (firstMade : table.shape? first = some (construction.shape part))
    (secondMade : table.shape? second = some (construction.shape part))
    (before : first.index < second.index) :
    first.index ≤ part.index ∧ part.index < second.index ∧ table.name part ≠ "<unknown>" := by
  obtain ⟨firstInfo, firstFound, firstShape⟩ := Option.map_eq_some_iff.mp firstMade
  obtain ⟨secondInfo, secondFound, secondShape⟩ := Option.map_eq_some_iff.mp secondMade
  have different : firstInfo.name ≠ secondInfo.name := by
    intro same
    have one := reachable.keysInverse.eq_of_hasKey (hasKey_of_get? firstFound)
      ⟨secondInfo, secondFound, same.symm, secondShape.trans firstShape.symm⟩
    rw [one] at before
    exact Nat.lt_irrefl _ before
  rw [reachable.namedAfterParts first firstInfo construction part firstFound
      (TypeInfo.construction?_eq_some_iff.mpr firstShape),
    reachable.namedAfterParts second secondInfo construction part secondFound
      (TypeInfo.construction?_eq_some_iff.mpr secondShape), ne_eq,
      String.append_left_inj] at different
  unfold nameBefore at different
  split at different
  · rename_i early
    rw [if_pos (Nat.lt_trans early before)] at different
    exact absurd rfl different
  · rename_i late
    split at different
    · rename_i early
      exact ⟨Nat.le_of_not_lt late, early, fun unnamed => different unnamed.symm⟩
    · exact absurd rfl different

/-- Pointers and arrays in tables that registration leads to. What is made of a part is the same
type ever after exactly if the part was there, or has still no name of its own. So two different
types are made of one part only if the one was made before the part was there. -/
theorem construction_characterised (reachable : table.Reachable) (construction : Construction)
    (part : TypeId) :
    (∀ later, (construction.make table part).1.GrowsTo later →
      ((construction.make later part).2 = (construction.make table part).2 ↔
        (table.get? part).isSome = true ∨ later.name part = "<unknown>")) ∧
    ∀ first second, table.shape? first = some (construction.shape part) →
      table.shape? second = some (construction.shape part) → first.index < second.index →
      first.index ≤ part.index ∧ part.index < second.index ∧ table.name part ≠ "<unknown>" := by
  constructor
  · intro later grown
    have fromTable : table.GrowsTo later := grown.head (construction.make_registers table part)
    rw [make_again_iff reachable grown, fromTable.name_eq_iff]
  · intro first second firstMade secondMade before
    exact reachable.made_twice firstMade secondMade before

/-- Arrays of a type that is not there yet, and then that type, a class of invoices. -/
def invoices : TypeTable :=
  (((ofPointerSize 8).arrayOf ⟨34⟩).1.register { name := "Invoice", shape := .classType }).1

/-- Pointers to invoices, and then a class of customers. -/
def invoicePointers : TypeTable :=
  ((invoices.pointerTo ⟨34⟩).1.register { name := "Customer", shape := .classType }).1

theorem invoices_reachable : invoices.Reachable :=
  .step (.step (.start 8) (.arrayOf ⟨34⟩)) (.register _)

/-- Pointers to invoices are the same ever after. There are two types of arrays of them, of which
only the one that was made later comes after the invoices. -/
theorem invoicePointers_made_once :
    (invoicePointers.pointerTo ⟨34⟩).2 = (invoices.pointerTo ⟨34⟩).2 ∧
      (invoices.arrayOf ⟨34⟩).1.shape? ⟨33⟩ = some (.arrayOf ⟨34⟩) ∧
      (invoices.arrayOf ⟨34⟩).1.shape? ⟨35⟩ = some (.arrayOf ⟨34⟩) ∧
      (invoices.arrayOf ⟨34⟩).1.name ⟨34⟩ ≠ "<unknown>" := by
  obtain ⟨known, early, late⟩ : (invoices.get? ⟨34⟩).isSome = true ∧
      (invoices.arrayOf ⟨34⟩).1.shape? ⟨33⟩ = some (.arrayOf ⟨34⟩) ∧
      (invoices.arrayOf ⟨34⟩).1.shape? ⟨35⟩ = some (.arrayOf ⟨34⟩) := by decide +kernel
  obtain ⟨again, _⟩ := construction_characterised invoices_reachable .pointer ⟨34⟩
  obtain ⟨_, twice⟩ :=
    construction_characterised (.step invoices_reachable (.arrayOf ⟨34⟩)) .array ⟨34⟩
  have grown : (invoices.pointerTo ⟨34⟩).1.GrowsTo invoicePointers := .single (.register _)
  obtain ⟨_, _, named⟩ := twice ⟨33⟩ ⟨35⟩ early late (by decide)
  exact ⟨(again invoicePointers grown).mpr (.inl known), early, late, named⟩

/-- Arrays of invoices that were made before the invoices are not found again, and are made anew. -/
theorem invoices_made_twice :
    ((ofPointerSize 8).arrayOf ⟨34⟩).1.GrowsTo invoices ∧
      ((ofPointerSize 8).arrayOf ⟨34⟩).2 = ⟨33⟩ ∧
      (invoices.arrayOf ⟨34⟩).2 = ⟨35⟩ ∧ (invoices.arrayOf ⟨34⟩).1.Reachable ∧
      (invoices.arrayOf ⟨34⟩).1.element? ⟨33⟩ = some ⟨34⟩ ∧
      (invoices.arrayOf ⟨34⟩).1.element? ⟨35⟩ = some ⟨34⟩ := by
  obtain ⟨first, second, elements⟩ : ((ofPointerSize 8).arrayOf ⟨34⟩).2 = ⟨33⟩ ∧
    (invoices.arrayOf ⟨34⟩).2 = ⟨35⟩ ∧
      (invoices.arrayOf ⟨34⟩).1.element? ⟨33⟩ = some ⟨34⟩ ∧
      (invoices.arrayOf ⟨34⟩).1.element? ⟨35⟩ = some ⟨34⟩ := by decide +kernel
  exact ⟨.single (.register _), first, second, .step invoices_reachable (.arrayOf ⟨34⟩), elements⟩

end TypeTable

end DialectBinder
