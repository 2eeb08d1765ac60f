import DialectBinder.Proofs.SymbolGrowth

/-! Member tables and parents. A declaration names the container as the parent of the new symbol,
and enters the symbol in the table of the container if the container is there by then. So the table
of a container lists the members it was given with, and after them the symbols that name it, save
those that came before it. A container is given without members, unless it is a copy of another
one. -/

namespace DialectBinder

/-- Whichever group an entry joins, all groups together gain that entry. -/
theorem NameTable.all_add_perm (table : NameTable) (name : String) (symbol : SymbolId) :
    (table.add name symbol).all.Perm (table.all ++ [symbol]) := by
  obtain ⟨groups⟩ := table
  simp only [add, all]
  induction groups with
  | nil => rfl
  | cons group rest ih =>
    obtain ⟨held, symbols⟩ := group
    by_cases joined : held = Text.fold name
    · -- The entry stands in front of the other groups here, and behind them on the right.
      simp only [join, joined, beq_self_eq_true, if_true, List.flatMap_cons, List.append_assoc]
      exact List.perm_append_comm.append_left symbols
    · simp only [join, beq_false_of_ne joined, Bool.false_eq_true, if_false, List.flatMap_cons,
        List.append_assoc]
      exact ih.append_left symbols

namespace SymbolArena

/-- The arenas that declarations lead to, with the symbols as they were given. Only a declaration in
a container gives a symbol its parent. -/
inductive Built : List Symbol → SymbolArena → Prop where
  | start : Built [] ⟨#[]⟩
  | alloc {given : List Symbol} {arena : SymbolArena} (symbol : Symbol)
      (orphan : symbol.parent = none) (before : Built given arena) :
      Built (given ++ [symbol]) (arena.alloc symbol)
  | declareMember {given : List Symbol} {arena : SymbolArena} (container : SymbolId)
      (symbol : Symbol) (before : Built given arena) :
      Built (given ++ [symbol]) (arena.declareMember container symbol)

def ids (arena : SymbolArena) : List SymbolId := (List.range arena.size).map SymbolId.mk

/-- Whether the symbol names the container as its parent and does not come before it. -/
def belongsTo (arena : SymbolArena) (container id : SymbolId) : Bool :=
  decide (container.index ≤ id.index) &&
    arena.satisfies (fun symbol => symbol.parent == some container) id

def isNamed (arena : SymbolArena) (name : String) (id : SymbolId) : Bool :=
  arena.satisfies (fun symbol => Text.sameIgnoringCase symbol.name name) id

/-- The symbols of a container, in the order of their identities. -/
def declaredIn (arena : SymbolArena) (container : SymbolId) : List SymbolId :=
  arena.ids.filter (arena.belongsTo container)

/-- The members that the container keeps; none, if it is not there. -/
def memberTable (arena : SymbolArena) (container : SymbolId) : NameTable :=
  ((arena.get? container).map fun symbol => symbol.members).getD ⟨[]⟩

/-- The members that the container had when it was given. -/
def broughtBy (given : List Symbol) (container : SymbolId) : NameTable :=
  (given[container.index]?.map fun symbol => symbol.members).getD ⟨[]⟩

theorem mem_ids_iff {arena : SymbolArena} {id : SymbolId} :
    id ∈ arena.ids ↔ (arena.get? id).isSome = true := by
  obtain ⟨index⟩ := id
  simp [ids, get?, size]

theorem get?_alloc (arena : SymbolArena) (added : Symbol) (id : SymbolId) :
    (arena.alloc added).get? id = if id = arena.nextId then some added else arena.get? id := by
  obtain ⟨index⟩ := id
  simp [alloc, get?, nextId, size, Array.getElem?_push]

theorem grows_alloc (arena : SymbolArena) (added : Symbol) : arena.Grows (arena.alloc added) := by
  intro id symbol found
  have old : id ≠ arena.nextId := by
    rintro rfl
    rw [get?_nextId] at found
    cases found
  exact ⟨symbol.members, by rw [get?_alloc, if_neg old, found]⟩

section

variable {arena later : SymbolArena} (grows : arena.Grows later)

include grows

theorem Grows.belongsTo_eq (container : SymbolId) {id : SymbolId} (known : id ∈ arena.ids) :
    later.belongsTo container id = arena.belongsTo container id := by
  have same : later.satisfies (fun symbol => symbol.parent == some container) id =
      arena.satisfies (fun symbol => symbol.parent == some container) id :=
    grows.satisfies_eq (mem_ids_iff.mp known) fun _ _ _ => rfl
  rw [belongsTo, belongsTo, same]

theorem Grows.isNamed_eq (name : String) {id : SymbolId} (known : id ∈ arena.ids) :
    later.isNamed name id = arena.isNamed name id :=
  grows.satisfies_eq (mem_ids_iff.mp known) fun _ _ _ => rfl

/-- One more symbol joins those of the container that it belongs to. -/
theorem Grows.declaredIn_eq (longer : later.size = arena.size + 1) (container : SymbolId) :
    later.declaredIn container =
      arena.declaredIn container ++
        if later.belongsTo container arena.nextId then [arena.nextId] else [] := by
  have ids : later.ids = arena.ids ++ [arena.nextId] := by
    rw [SymbolArena.ids, longer, List.range_succ, List.map_append]
    rfl
  rw [declaredIn, ids, List.filter_append, List.filter_cons, List.filter_nil,
    List.filter_congr fun id known => grows.belongsTo_eq container known]
  rfl

end

/-- The table lists what the container brought and then its symbols: under each name those that have
it, in order, and all of them once. -/
structure Mirrors (arena : SymbolArena) (container : SymbolId)
    (brought members : NameTable) : Prop where
  named : ∀ name,
    members.named name =
      brought.named name ++ (arena.declaredIn container).filter (arena.isNamed name)
  all : members.all.Perm (brought.all ++ arena.declaredIn container)

section

variable {arena later : SymbolArena} (grows : arena.Grows later) {container : SymbolId}
  {brought members : NameTable} (mirrors : arena.Mirrors container brought members)

include grows mirrors

theorem Mirrors.named_of_grows (name : String) :
    members.named name =
      brought.named name ++ (arena.declaredIn container).filter (later.isNamed name) := by
  rw [mirrors.named]
  refine congrArg (brought.named name ++ ·) (List.filter_congr fun id listed => ?_)
  rw [grows.isNamed_eq name (List.mem_filter.mp listed).1]

theorem Mirrors.keep (same : later.declaredIn container = arena.declaredIn container) :
    later.Mirrors container brought members where
  named name := by rw [same, mirrors.named_of_grows grows]
  all := same ▸ mirrors.all

theorem Mirrors.add {entry : Symbol} {name : String} (added : later.get? arena.nextId = some entry)
    (entered : entry.name = name)
    (joined : later.declaredIn container = arena.declaredIn container ++ [arena.nextId]) :
    later.Mirrors container brought (members.add name arena.nextId) where
  named asked := by
    have matched : later.isNamed asked arena.nextId = true ↔ Text.fold name = Text.fold asked := by
      rw [isNamed, satisfies, added, Option.any_some, Text.sameIgnoringCase_iff, entered]
    rw [NameTable.named_add, joined, List.filter_append, List.filter_cons, List.filter_nil,
      mirrors.named_of_grows grows, ← List.append_assoc]
    simp only [matched]
    split
    · rfl
    · exact (List.append_nil _).symm
  all := by
    rw [joined, ← List.append_assoc]
    exact (members.all_add_perm name arena.nextId).trans (mirrors.all.append_right _)

end

section Steps

variable (arena : SymbolArena) (container : SymbolId) (added : Symbol)

theorem declaredIn_nextId : arena.declaredIn arena.nextId = [] := by
  refine List.filter_eq_nil_iff.mpr fun id listed => ?_
  have known := mem_ids_iff.mp listed
  have before : id.index < arena.size := by
    obtain ⟨symbol, found⟩ := Option.isSome_iff_exists.mp known
    exact (Array.getElem?_eq_some_iff.mp found).1
  have later : ¬arena.nextId.index ≤ id.index := Nat.not_le.mpr before
  simp [belongsTo, later]

theorem memberTable_alloc :
    (arena.alloc added).memberTable container =
      if container = arena.nextId then added.members else arena.memberTable container := by
  rw [memberTable, memberTable, get?_alloc]
  split
  · rfl
  · rfl

theorem broughtBy_append {given : List Symbol} (complete : given.length = arena.size) :
    broughtBy (given ++ [added]) container =
      if container = arena.nextId then added.members else broughtBy given container := by
  obtain ⟨index⟩ := container
  have last : SymbolId.mk index = arena.nextId ↔ index = given.length := by
    rw [nextId, SymbolId.mk.injEq, complete]
  rw [broughtBy, broughtBy]
  simp only [last]
  split
  · rename_i new
    rw [new, List.getElem?_concat_length]
    rfl
  · rename_i old
    rcases Nat.lt_or_gt_of_ne old with before | beyond
    · rw [List.getElem?_append_left before]
    · have short : (given ++ [added]).length ≤ index := by
        rw [List.length_append, List.length_singleton]
        exact beyond
      rw [List.getElem?_eq_none short, List.getElem?_eq_none (Nat.le_of_lt beyond)]

theorem declaredIn_alloc (orphan : added.parent = none) :
    (arena.alloc added).declaredIn container = arena.declaredIn container := by
  have outside : (arena.alloc added).belongsTo container arena.nextId = false := by
    simp [belongsTo, satisfies, get?_alloc, orphan]
  have longer : (arena.alloc added).size = arena.size + 1 := Array.size_push _
  rw [(arena.grows_alloc added).declaredIn_eq longer, outside]
  exact List.append_nil _

theorem memberTable_declareMember (id : SymbolId) :
    (arena.declareMember container added).memberTable id =
      if id = container ∧ id.index ≤ arena.size then
        ((arena.alloc added).memberTable id).add added.name arena.nextId
      else (arena.alloc added).memberTable id := by
  rw [memberTable, memberTable, get?_declareMember, get?_alloc]
  by_cases new : id = arena.nextId
  · have there : arena.nextId.index ≤ arena.size := Nat.le_refl _
    subst new
    by_cases inside : arena.nextId = container
    · subst inside
      simp [there]
    · simp [inside]
  · rw [if_neg new, if_neg new]
    cases found : arena.get? id with
    | none =>
      have outside : ¬id.index ≤ arena.size := by
        have missing : arena.size ≤ id.index := Array.getElem?_eq_none_iff.mp found
        have different : id.index ≠ arena.size := fun same => new (congrArg SymbolId.mk same)
        omega
      simp [outside]
    | some symbol =>
      have there : id.index ≤ arena.size := Nat.le_of_lt (Array.getElem?_eq_some_iff.mp found).1
      by_cases inside : id = container
      · subst inside
        simp [there]
      · simp [inside]

theorem get?_nextId_declareMember :
    ∃ entry, (arena.declareMember container added).get? arena.nextId = some entry ∧
      entry.name = added.name ∧ entry.parent = some container := by
  rw [get?_declareMember, if_pos rfl, Option.map_some]
  split
  · exact ⟨_, rfl, rfl, rfl⟩
  · exact ⟨_, rfl, rfl, rfl⟩

theorem size_declareMember : (arena.declareMember container added).size = arena.size + 1 := by
  simp [declareMember, alloc, size]

theorem declaredIn_declareMember (id : SymbolId) :
    (arena.declareMember container added).declaredIn id =
      if id = container ∧ id.index ≤ arena.size then arena.declaredIn id ++ [arena.nextId]
      else arena.declaredIn id := by
  have belongs : (arena.declareMember container added).belongsTo id arena.nextId = true ↔
      id = container ∧ id.index ≤ arena.size := by
    obtain ⟨entry, found, _, inside⟩ := arena.get?_nextId_declareMember container added
    have place : arena.nextId.index = arena.size := rfl
    simp [belongsTo, satisfies, found, inside, place, and_comm, eq_comm (a := id)]
  rw [(arena.grows_declareMember container added).declaredIn_eq
    (arena.size_declareMember container added)]
  simp only [belongs]
  split
  · rfl
  · exact List.append_nil _

end Steps

theorem Built.length_eq {given : List Symbol} {arena : SymbolArena} (built : Built given arena) :
    given.length = arena.size := by
  induction built with
  | start => rfl
  | @alloc given arena added _ _ same =>
    rw [List.length_append, List.length_singleton, same]
    exact (Array.size_push _).symm
  | @declareMember given arena container added _ same =>
    rw [List.length_append, List.length_singleton, same, size_declareMember]

/-- A new symbol lists what it brings, for nothing is declared in it yet. -/
theorem Mirrors.given {given : List Symbol} {arena : SymbolArena} {container : SymbolId}
    (complete : given.length = arena.size) (added : Symbol)
    (mirrors : arena.Mirrors container (broughtBy given container) (arena.memberTable container)) :
    arena.Mirrors container (broughtBy (given ++ [added]) container)
      ((arena.alloc added).memberTable container) := by
  rw [memberTable_alloc, broughtBy_append arena container added complete]
  split
  · rename_i new
    have nothing : arena.declaredIn container = [] := new ▸ arena.declaredIn_nextId
    exact ⟨fun name => by rw [nothing]; exact (List.append_nil _).symm,
      by rw [nothing, List.append_nil]⟩
  · exact mirrors

theorem Built.mirrors {given : List Symbol} {arena : SymbolArena} (built : Built given arena)
    (container : SymbolId) :
    arena.Mirrors container (broughtBy given container) (arena.memberTable container) := by
  induction built with
  | start => exact ⟨fun _ => rfl, .nil⟩
  | @alloc given arena added orphan before mirrors =>
    have brought := mirrors.given before.length_eq added
    exact brought.keep (arena.grows_alloc added) (arena.declaredIn_alloc container added orphan)
  | @declareMember given arena parent added before mirrors =>
    have brought := mirrors.given before.length_eq added
    have grows := arena.grows_declareMember parent added
    have listed := arena.declaredIn_declareMember parent added container
    -- The table and the scan gain the new symbol under one condition, so they stay in step.
    rw [memberTable_declareMember]
    split
    · rename_i entered
      rw [if_pos entered] at listed
      obtain ⟨entry, found, named, _⟩ := arena.get?_nextId_declareMember parent added
      exact brought.add grows found named listed
    · rename_i passed
      rw [if_neg passed] at listed
      exact brought.keep grows listed

def key : Symbol := { name := "Key", flags := .field }

def lock : Symbol := { name := "Lock", flags := .classType }

def furnishedLock : SymbolArena := ((SymbolArena.mk #[]).alloc lock).declareMember ⟨0⟩ key

/-- The lock with the key that it holds by now. -/
def lockCopy : Symbol := { lock with members := furnishedLock.memberTable ⟨0⟩ }

/-- A copy brings the members of the container it was copied from, and lists them though they name
another container. -/
theorem copy_lists_foreign_key :
    Built [lock, key, lockCopy] (furnishedLock.alloc lockCopy) ∧
      ((furnishedLock.alloc lockCopy).memberTable ⟨2⟩).named "key" = [⟨1⟩] ∧
      ((furnishedLock.alloc lockCopy).get? ⟨1⟩).map (·.parent) = some (some ⟨0⟩) := by
  refine ⟨.alloc _ rfl (.declareMember _ _ (.alloc _ rfl .start)), ?_, ?_⟩
  · decide
  · decide

end SymbolArena

end DialectBinder
