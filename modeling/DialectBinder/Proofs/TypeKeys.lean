import Mathlib.Logic.Relation
import DialectBinder.Proofs.RegisteredTypes

/-! The keys of a type table. The types stand in a list and their identities in a map from names and
shapes, which grow together. In a table that registration leads to the two are inverse to each
other: no two types share a name and a shape, and a key leads to the type that has it. Entering a
type leaves all that was there as it was. -/

namespace DialectBinder.TypeTable

/-- The table grows to the other one by any number of registrations. -/
def GrowsTo (table later : TypeTable) : Prop := Relation.ReflTransGen Registers table later

def HasKey (table : TypeTable) (id : TypeId) (name : String) (shape : TypeShape) : Prop :=
  ∃ info, table.get? id = some info ∧ info.name = name ∧ info.shape = shape

/-- A key leads to an identity exactly if it is the key of the type there. -/
def KeysInverse (table : TypeTable) : Prop :=
  ∀ name shape id, table.lookup? name shape = some id ↔ table.HasKey id name shape

variable {table later : TypeTable} {id : TypeId} {info : TypeInfo} {name : String}
    {shape : TypeShape}

theorem size_push : (table.push info).size = table.size + 1 := Array.size_push info

theorem hasKey_of_get? (found : table.get? id = some info) : table.HasKey id info.name info.shape :=
  ⟨info, found, rfl, rfl⟩

theorem HasKey.index_lt (key : table.HasKey id name shape) : id.index < table.size := by
  obtain ⟨info, found, _⟩ := key
  exact (Array.getElem?_eq_some_iff.mp found).1

/-- A type that is added takes its key over, and the other keys lead where they led. -/
theorem lookup?_push :
    (table.push info).lookup? name shape =
      if info.name = name ∧ info.shape = shape then some ⟨table.size⟩
      else table.lookup? name shape := by
  rw [lookup?, push, List.lookup_cons, TypeInfo.key]
  by_cases same : info.name = name ∧ info.shape = shape
  · obtain ⟨rfl, rfl⟩ := same
    simp
  · have apart : (TypeKey.mk name shape == ⟨info.name, info.shape⟩) = false := by
      refine beq_eq_false_iff_ne.mpr fun key => same ?_
      cases key
      exact ⟨rfl, rfl⟩
    rw [apart, if_neg same]
    rfl

theorem hasKey_push :
    (table.push info).HasKey id name shape ↔
      table.HasKey id name shape ∨
        (id.index = table.size ∧ info.name = name ∧ info.shape = shape) := by
  unfold HasKey
  rw [get?_push]
  by_cases last : id.index = table.size
  · have absent : table.get? id = none := Array.getElem?_eq_none (Nat.le_of_eq last.symm)
    simp [last, absent]
  · simp [last]

namespace KeysInverse

theorem not_hasKey (inverse : table.KeysInverse) (missing : table.lookup? name shape = none) :
    ¬table.HasKey id name shape := by
  intro key
  rw [(inverse name shape id).mpr key] at missing
  cases missing

theorem eq_of_hasKey (inverse : table.KeysInverse) {first second : TypeId}
    (firstKey : table.HasKey first name shape) (secondKey : table.HasKey second name shape) :
    first = second := by
  have found := (inverse name shape first).mpr firstKey
  rw [(inverse name shape second).mpr secondKey] at found
  exact (Option.some.inj found).symm

theorem push (inverse : table.KeysInverse) (new : table.lookup? info.name info.shape = none) :
    (table.push info).KeysInverse := by
  intro name shape id
  rw [lookup?_push, hasKey_push]
  by_cases own : info.name = name ∧ info.shape = shape
  · obtain ⟨rfl, rfl⟩ := own
    obtain ⟨index⟩ := id
    simp [inverse.not_hasKey new, eq_comm]
  · rw [if_neg own, inverse name shape id]
    simp [own]

theorem foldl_push {infos : List TypeInfo} (inverse : table.KeysInverse)
    (distinct : (infos.map TypeInfo.key).Nodup)
    (new : ∀ info ∈ infos, table.lookup? info.name info.shape = none) :
    (infos.foldl TypeTable.push table).KeysInverse := by
  induction infos generalizing table with
  | nil => exact inverse
  | cons first rest ih =>
    obtain ⟨fresh, distinctRest⟩ := List.nodup_cons.mp distinct
    refine ih (inverse.push (new first List.mem_cons_self)) distinctRest ?_
    intro info member
    have apart : ¬(first.name = info.name ∧ first.shape = info.shape) := by
      rintro ⟨sameName, sameShape⟩
      refine fresh (List.mem_map.mpr ⟨info, member, ?_⟩)
      rw [TypeInfo.key, TypeInfo.key, sameName, sameShape]
    rw [lookup?_push, if_neg apart]
    exact new info (List.mem_cons_of_mem first member)

theorem intern (inverse : table.KeysInverse) (info : TypeInfo) :
    (table.intern info).1.KeysInverse := by
  unfold TypeTable.intern
  split
  · exact inverse
  · rename_i new
    exact inverse.push new

end KeysInverse

theorem foldl_push_eq (table : TypeTable) (infos : List TypeInfo) :
    infos.foldl push table =
      { table with
        entries := table.entries ++ infos
        keys :=
          ((infos.zipIdx table.size).reverse.map fun entry => (entry.1.key, ⟨entry.2⟩)) ++
          table.keys } := by
  induction infos generalizing table with
  | nil => simp
  | cons info rest ih =>
    rw [List.foldl_cons, ih]
    simp [push, size]

/-- The first table is that of adding the well-known types one after the other. -/
theorem ofPointerSize_eq_foldl (pointerSize : Nat) :
    ofPointerSize pointerSize =
      (wellKnownTypes pointerSize).toList.foldl push ⟨#[], [], pointerSize⟩ := by
  rw [foldl_push_eq]
  simp [ofPointerSize, size]

theorem keysInverse_ofPointerSize (pointerSize : Nat) :
    (ofPointerSize pointerSize).KeysInverse := by
  have names : ((wellKnownTypes pointerSize).toList.map TypeInfo.name).Nodup := by
    have evaluated : (wellKnownTypes pointerSize).toList.map TypeInfo.name =
        (wellKnownTypes 0).toList.map TypeInfo.name :=
      rfl
    rw [evaluated]
    decide +kernel
  have keys : ((wellKnownTypes pointerSize).toList.map TypeInfo.key).Nodup := by
    refine List.Pairwise.of_map (S := (· ≠ ·)) TypeKey.name
      (fun _ _ => mt (congrArg TypeKey.name)) ?_
    rw [List.map_map]
    exact names
  rw [ofPointerSize_eq_foldl]
  refine KeysInverse.foldl_push ?_ keys fun _ _ => rfl
  intro name shape id
  simp [lookup?, HasKey, get?]

theorem Reachable.keysInverse (reachable : table.Reachable) : table.KeysInverse := by
  induction reachable with
  | start pointerSize => exact keysInverse_ofPointerSize pointerSize
  | step _ registers inverse =>
    obtain ⟨info, _, rfl⟩ := registers.exists_intern
    exact inverse.intern info

theorem intern_of_known (known : table.lookup? info.name info.shape = some id) :
    table.intern info = (table, id) := by
  simp [intern, known]

theorem intern_of_new (new : table.lookup? info.name info.shape = none) :
    table.intern info = (table.push info, ⟨table.size⟩) := by
  simp [intern, new]

/-- What entering a type does. A type of that name and shape is found where it is and nothing
changes; otherwise the type comes to the end. Either way the other types and the answers for other
keys stay as they were. -/
structure Enters (table : TypeTable) (info : TypeInfo) (result : TypeTable × TypeId) : Prop where
  known : ∀ id, table.lookup? info.name info.shape = some id → result = (table, id)
  new : table.lookup? info.name info.shape = none →
    result.2 = ⟨table.size⟩ ∧ result.1.size = table.size + 1 ∧ result.1.get? result.2 = some info
  own : result.1.lookup? info.name info.shape = some result.2
  entries : ∀ id, id.index < table.size → result.1.get? id = table.get? id
  others : ∀ name shape, ¬(info.name = name ∧ info.shape = shape) →
    result.1.lookup? name shape = table.lookup? name shape
  pointerSize : result.1.pointerSize = table.pointerSize

theorem enters_intern (table : TypeTable) (info : TypeInfo) :
    table.Enters info (table.intern info) := by
  cases found : table.lookup? info.name info.shape with
  | some id =>
    rw [intern_of_known found]
    refine ⟨?_, ?_, found, fun _ _ => rfl, fun _ _ _ => rfl, rfl⟩
    · intro other same
      rw [found] at same
      cases same
      rfl
    · intro missing
      rw [found] at missing
      cases missing
  | none =>
    rw [intern_of_new found]
    refine ⟨?_, fun _ => ⟨rfl, size_push, ?_⟩, ?_, ?_, ?_, rfl⟩
    · intro id known
      rw [found] at known
      cases known
    · rw [get?_push, if_pos rfl]
    · rw [lookup?_push, if_pos ⟨rfl, rfl⟩]
    · intro id inside
      rw [get?_push, if_neg (Nat.ne_of_lt inside)]
    · intro name shape different
      rw [lookup?_push, if_neg different]

namespace GrowsTo

theorem reachable (grown : table.GrowsTo later) (reachable : table.Reachable) :
    later.Reachable := by
  induction grown with
  | refl => exact reachable
  | tail _ registers before => exact .step before registers

theorem size_le (grown : table.GrowsTo later) : table.size ≤ later.size := by
  induction grown with
  | refl => exact Nat.le_refl _
  | tail _ registers before =>
    rcases registers.cases with rfl | ⟨info, _, rfl⟩
    · exact before
    · rw [size_push]
      omega

theorem get?_eq (grown : table.GrowsTo later) (inside : id.index < table.size) :
    later.get? id = table.get? id := by
  induction grown with
  | refl => rfl
  | tail grown registers before =>
    obtain ⟨info, _, rfl⟩ := registers.exists_intern
    rw [(enters_intern _ info).entries id (Nat.lt_of_lt_of_le inside (GrowsTo.size_le grown)),
      before]

end GrowsTo

/-- Identities in a table that registration leads to. Looking a type up and reading it are inverse
to each other, the well-known types are as at the start, and no other type carries a tag of theirs.
What is registered is found where it is or comes to the end, and nothing else changes. -/
theorem registration_keeps_identities {pointerSize : Nat}
    (grown : (ofPointerSize pointerSize).GrowsTo table) :
    (∀ id info, table.get? id = some info → table.lookup? info.name info.shape = some id) ∧
    (∀ name shape id, table.lookup? name shape = some id →
      id.index < table.size ∧ table.HasKey id name shape) ∧
    (∀ id, id.isWellKnown = true → table.get? id = (ofPointerSize pointerSize).get? id) ∧
    (∀ id info, id.isWellKnown = false → table.get? id = some info → info.IsUntagged) ∧
    (∀ declaration, table.Enters declaration.toInfo (table.register declaration)) ∧
    (∀ pointee, table.Enters (.pointer (table.name pointee ++ "*") pointee table.pointerSize)
      (table.pointerTo pointee)) ∧
    ∀ element, table.Enters (.array (table.name element ++ "[]") element)
      (table.arrayOf element) := by
  have reachable : table.Reachable := grown.reachable (.start pointerSize)
  refine ⟨?_, ?_, ?_, reachable.keepsWellKnown.added, ?_, ?_, ?_⟩
  · intro id info found
    exact (reachable.keysInverse _ _ id).mpr (hasKey_of_get? found)
  · intro name shape id found
    have key := (reachable.keysInverse name shape id).mp found
    exact ⟨key.index_lt, key⟩
  · intro id inside
    exact grown.get?_eq (of_decide_eq_true inside)
  · exact fun declaration => enters_intern table declaration.toInfo
  · exact fun pointee => enters_intern table _
  · exact fun element => enters_intern table _

/-- A class with the name of a well-known type. -/
def longClass : TypeDeclaration := { name := "LONG", shape := .classType }

def longClasses : TypeTable := (((ofPointerSize 8).register longClass).1.arrayOf ⟨33⟩).1

/-- The class and the number are two types; registering the class again finds it. -/
theorem longClasses_found_again :
    (ofPointerSize 8).GrowsTo longClasses ∧ longClasses.lookup? "LONG" .classType = some ⟨33⟩ ∧
      longClasses.lookup? "LONG" .structType = some .long ∧
        longClasses.register longClass = (longClasses, ⟨33⟩) := by
  have grown : (ofPointerSize 8).GrowsTo longClasses :=
    .tail (.single (.register longClass)) (.arrayOf ⟨33⟩)
  obtain ⟨inverse, _, _, _, registered, _⟩ := registration_keeps_identities grown
  obtain ⟨classEntry, numberEntry⟩ : longClasses.get? ⟨33⟩ = some longClass.toInfo ∧
      longClasses.get? .long = some (.ofPrimitive "LONG" .int32 4) := by decide +kernel
  have found : longClasses.lookup? "LONG" .classType = some ⟨33⟩ := inverse ⟨33⟩ _ classEntry
  exact ⟨grown, found, inverse .long _ numberEntry, (registered longClass).known ⟨33⟩ found⟩

end DialectBinder.TypeTable
