import DialectBinder.Symbol.Arena

/-! Symbol tables that grow by declarations. A declaration adds one symbol and enters it at the end
of one group of its container; all that the other symbols say of themselves stays. -/

namespace DialectBinder

namespace NameTable

theorem lookup_join (key name : String) (symbol : SymbolId)
    (groups : List (String × List SymbolId)) :
    ((join key symbol groups).lookup name).getD [] =
      if key = name then (groups.lookup name).getD [] ++ [symbol]
      else (groups.lookup name).getD [] := by
  induction groups with
  | nil =>
    by_cases same : key = name
    · simp [join, same]
    · simp [join, List.lookup_cons, same, beq_false_of_ne (Ne.symm same)]
  | cons group rest ih =>
    obtain ⟨held, symbols⟩ := group
    by_cases joined : held = key
    · subst joined
      by_cases same : held = name
      · simp [join, same]
      · simp [join, List.lookup_cons, same, beq_false_of_ne (Ne.symm same)]
    · by_cases asked : held = name
      · subst asked
        simp [join, joined, Ne.symm joined]
      · simp [join, joined, List.lookup_cons, beq_false_of_ne (Ne.symm asked), ih]

theorem named_add (table : NameTable) (added name : String) (symbol : SymbolId) :
    (table.add added symbol).named name =
      if Text.fold added = Text.fold name then table.named name ++ [symbol] else table.named name :=
  lookup_join (Text.fold added) (Text.fold name) symbol table.groups

theorem mem_all_of_mem_named {table : NameTable} {name : String} {id : SymbolId}
    (member : id ∈ table.named name) :
    id ∈ table.all := by
  unfold named at member
  cases found : table.groups.lookup (Text.fold name) with
  | none => simp [found] at member
  | some symbols =>
    obtain ⟨before, after, groups, _⟩ := List.lookup_eq_some_iff.mp found
    simp only [found, Option.getD_some] at member
    simp [all, groups, member]

end NameTable

def Symbol.links (symbol : Symbol) : List SymbolId :=
  symbol.parent.toList ++ symbol.base.toList ++ symbol.members.all

namespace SymbolArena

/-- Every link between symbols leads to one of them. -/
def Closed (arena : SymbolArena) : Prop :=
  ∀ symbol ∈ arena.symbols.toList, ∀ id ∈ symbol.links, (arena.get? id).isSome = true

instance (arena : SymbolArena) : Decidable arena.Closed :=
  inferInstanceAs
    (Decidable (∀ symbol ∈ arena.symbols.toList, ∀ id ∈ symbol.links,
      (arena.get? id).isSome = true))

section

variable {arena : SymbolArena} (closed : arena.Closed) {id : SymbolId} {symbol : Symbol}
  (found : arena.get? id = some symbol)

include closed found

theorem Closed.link {linked : SymbolId} (link : linked ∈ symbol.links) :
    (arena.get? linked).isSome = true :=
  closed symbol (Array.mem_toList_iff.mpr (Array.mem_of_getElem? found)) linked link

theorem Closed.parent {parent : SymbolId} (link : symbol.parent = some parent) :
    (arena.get? parent).isSome = true :=
  closed.link found (by simp [Symbol.links, link])

theorem Closed.base {base : SymbolId} (link : symbol.base = some base) :
    (arena.get? base).isSome = true :=
  closed.link found (by simp [Symbol.links, link])

theorem Closed.member {name : String} {member : SymbolId}
    (listed : member ∈ symbol.membersNamed name) :
    (arena.get? member).isSome = true :=
  closed.link found (by simp [Symbol.links, NameTable.mem_all_of_mem_named listed])

end

/-- The later arena holds the same symbols, perhaps with other members, and perhaps more of them. -/
def Grows (arena later : SymbolArena) : Prop :=
  ∀ ⦃id : SymbolId⦄ ⦃symbol : Symbol⦄, arena.get? id = some symbol →
    ∃ members, later.get? id = some { symbol with members }

theorem get?_nextId (arena : SymbolArena) : arena.get? arena.nextId = none :=
  Array.getElem?_eq_none (Nat.le_refl _)

/-- All that a declaration does to the symbols. -/
theorem get?_declareMember (arena : SymbolArena) (container : SymbolId) (added : Symbol)
    (id : SymbolId) :
    (arena.declareMember container added).get? id =
      (if id = arena.nextId then some { added with parent := some container }
        else arena.get? id).map fun symbol =>
          if id = container then
            { symbol with members := symbol.members.add added.name arena.nextId }
          else symbol := by
  have last : id.index = arena.symbols.size ↔ id = arena.nextId := by
    cases id
    simp [nextId, size]
  have place : container.index = id.index ↔ id = container := by
    cases id
    cases container
    simp [eq_comm]
  simp only [declareMember, alloc, get?, Array.getElem?_modify, Array.getElem?_push, last, place]
  split
  · rfl
  · simp

/-- A declaration adds to one group of its container and leaves all other members alone. -/
theorem membersNamed_declareMember {arena : SymbolArena} {id : SymbolId} {symbol : Symbol}
    (found : arena.get? id = some symbol) (container : SymbolId) (added : Symbol) (name : String) :
    ∃ members, (arena.declareMember container added).get? id = some { symbol with members } ∧
      members.named name =
        if id = container ∧ Text.fold added.name = Text.fold name then
          symbol.membersNamed name ++ [arena.nextId]
        else symbol.membersNamed name := by
  have old : id ≠ arena.nextId := by
    rintro rfl
    rw [get?_nextId] at found
    cases found
  rw [get?_declareMember, if_neg old, found, Option.map_some]
  by_cases inside : id = container
  · refine ⟨_, by rw [if_pos inside], ?_⟩
    simp [NameTable.named_add, Symbol.membersNamed, inside]
  · exact ⟨symbol.members, by rw [if_neg inside], by simp [inside, Symbol.membersNamed]⟩

theorem grows_declareMember (arena : SymbolArena) (container : SymbolId) (added : Symbol) :
    arena.Grows (arena.declareMember container added) := by
  intro id symbol found
  obtain ⟨members, kept, _⟩ := membersNamed_declareMember found container added ""
  exact ⟨members, kept⟩

section

variable {arena later : SymbolArena} (grows : arena.Grows later) {id : SymbolId}
  (known : (arena.get? id).isSome = true)

include grows known

/-- Two tests agree on a symbol of the earlier arena if neither looks at members and they agree
there. -/
theorem Grows.satisfies_eq {laterTest test : Symbol → Bool}
    (same : ∀ symbol members, arena.get? id = some symbol →
      laterTest { symbol with members } = test symbol) :
    later.satisfies laterTest id = arena.satisfies test id := by
  obtain ⟨symbol, found⟩ := Option.isSome_iff_exists.mp known
  obtain ⟨members, kept⟩ := grows found
  rw [satisfies, satisfies, kept, found, Option.any_some, Option.any_some,
    same symbol members found]

theorem Grows.isMethod_eq : later.isMethod id = arena.isMethod id :=
  grows.satisfies_eq known fun _ _ _ => rfl

theorem Grows.isType_eq : later.isType id = arena.isType id :=
  grows.satisfies_eq known fun _ _ _ => rfl

theorem Grows.isStaticMethod_eq : later.isStaticMethod id = arena.isStaticMethod id :=
  grows.satisfies_eq known fun _ _ _ => rfl

theorem Grows.containerName?_eq (closed : arena.Closed) :
    later.containerName? id = arena.containerName? id := by
  obtain ⟨symbol, found⟩ := Option.isSome_iff_exists.mp known
  obtain ⟨members, kept⟩ := grows found
  cases link : symbol.parent with
  | none => simp [containerName?, container?, kept, found, link]
  | some parent =>
    obtain ⟨container, foundParent⟩ := Option.isSome_iff_exists.mp (closed.parent found link)
    obtain ⟨parentMembers, keptParent⟩ := grows foundParent
    simp [containerName?, container?, kept, found, link, keptParent, foundParent]

end

theorem Grows.derivesWithin_eq {arena later : SymbolArena} (grows : arena.Grows later)
    (closed : arena.Closed) (base : SymbolId) (links : Nat) {id : SymbolId}
    (known : (arena.get? id).isSome = true) :
    later.derivesWithin base links id = arena.derivesWithin base links id := by
  induction links generalizing id with
  | zero => rfl
  | succ links ih =>
    obtain ⟨symbol, found⟩ := Option.isSome_iff_exists.mp known
    obtain ⟨members, kept⟩ := grows found
    cases link : symbol.base with
    | none => simp [derivesWithin, kept, found, link]
    | some next => simp [derivesWithin, kept, found, link, ih (closed.base found link)]

end SymbolArena

end DialectBinder
