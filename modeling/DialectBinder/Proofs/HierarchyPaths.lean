import DialectBinder.Types.Hierarchy
import Mathlib.Data.Option.Basic
import Mathlib.Logic.Relation

/-! Paths along base types and interfaces. The bounded walks of the hierarchy find exactly what such
a path of few enough links leads to, in circles and past types that are not known too. Where no path
is longer than the bound, they find all that is there. -/

namespace DialectBinder

/-- One type leads to another by this many links of a kind. -/
inductive Leads (link : TypeId → TypeId → Prop) : Nat → TypeId → TypeId → Prop where
  | here (id : TypeId) : Leads link 0 id id
  | next {links : Nat} {source middle target : TypeId} (first : link source middle)
      (rest : Leads link links middle target) : Leads link (links + 1) source target

namespace Leads

variable {link wider : TypeId → TypeId → Prop} {links more : Nat} {source middle target : TypeId}

theorem trans (first : Leads link links source middle) (second : Leads link more middle target) :
    Leads link (links + more) source target := by
  induction first with
  | here => rwa [Nat.zero_add]
  | next step _ ih =>
    rw [Nat.add_right_comm]
    exact .next step (ih second)

theorem mono (embed : ∀ {source target}, link source target → wider source target)
    (path : Leads link links source target) : Leads wider links source target := by
  induction path with
  | here => exact .here _
  | next step _ ih => exact .next (embed step) ih

@[simp]
theorem zero_iff : Leads link 0 source target ↔ source = target := by
  constructor
  · rintro ⟨⟩
    rfl
  · rintro rfl
    exact .here source

theorem succ_iff :
    Leads link (links + 1) source target ↔
    ∃ middle, link source middle ∧ Leads link links middle target := by
  constructor
  · rintro (_ | ⟨first, rest⟩)
    exact ⟨_, first, rest⟩
  · rintro ⟨middle, first, rest⟩
    exact .next first rest

theorem eq_of_no_link (stuck : ∀ next, ¬link source next) (path : Leads link links source target) :
    links = 0 ∧ source = target := by
  cases path with
  | here => exact ⟨rfl, rfl⟩
  | next first _ => exact False.elim (stuck _ first)

theorem reflTransGen_iff :
    Relation.ReflTransGen link source target ↔ ∃ links, Leads link links source target := by
  constructor
  · intro reached
    induction reached using Relation.ReflTransGen.head_induction_on with
    | refl => exact ⟨0, .here target⟩
    | head first _ ih =>
      obtain ⟨links, rest⟩ := ih
      exact ⟨links + 1, .next first rest⟩
  · rintro ⟨links, path⟩
    induction path with
    | here => exact .refl
    | next first _ ih => exact .head first ih

theorem transGen_iff :
    Relation.TransGen link source target ↔ ∃ links, Leads link (links + 1) source target := by
  simp only [Relation.TransGen.head'_iff, reflTransGen_iff, succ_iff]
  constructor
  · rintro ⟨middle, first, links, rest⟩
    exact ⟨links, middle, first, rest⟩
  · rintro ⟨links, middle, first, rest⟩
    exact ⟨middle, first, links, rest⟩

end Leads

namespace TypeTable

variable (table : TypeTable)

def HasBase (id base : TypeId) : Prop := ∃ info, table.get? id = some info ∧ info.base = some base

def HasInterface (id interface : TypeId) : Prop :=
  ∃ info, table.get? id = some info ∧ interface ∈ info.interfaces

def HasParent (id parent : TypeId) : Prop := table.HasBase id parent ∨ table.HasInterface id parent

/-- No path along base types and interfaces is too long for the walks. -/
def PathsBounded : Prop :=
  ∀ links source target, Leads table.HasParent links source target → links ≤ maxBaseDepth

variable {table} {links : Nat} {id base target : TypeId} {info : TypeInfo}

theorem hasBase_iff (found : table.get? id = some info) :
    table.HasBase id base ↔ info.base = some base := by
  simp [HasBase, found]

theorem hasInterface_iff (found : table.get? id = some info) :
    table.HasInterface id target ↔ target ∈ info.interfaces := by
  simp [HasInterface, found]

/-- The walk along base types ends at a known type that a path within the bound leads to. -/
theorem derivesWithin_iff :
    table.derivesWithin base links id = true ↔
      (table.get? base).isSome = true ∧ ∃ steps ≤ links, Leads table.HasBase steps id base := by
  induction links generalizing id with
  | zero =>
    simp only [derivesWithin, Bool.and_eq_true, beq_iff_eq, Nat.le_zero,
      exists_eq_left, Leads.zero_iff]
    constructor
    · rintro ⟨known, rfl⟩
      exact ⟨known, rfl⟩
    · rintro ⟨known, rfl⟩
      exact ⟨known, rfl⟩
  | succ links ih =>
    cases found : table.get? id with
    | none =>
      simp only [derivesWithin, found, Bool.false_eq_true, false_iff]
      rintro ⟨known, steps, _, path⟩
      cases path with
      | here => simp [found] at known
      | next first _ =>
        obtain ⟨info, present, _⟩ := first
        rw [found] at present
        cases present
    | some info =>
      simp only [derivesWithin, found, Bool.or_eq_true, beq_iff_eq, Option.any_eq_true, ih]
      constructor
      · rintro (rfl | ⟨next, named, known, steps, few, path⟩)
        · exact ⟨by rw [found]; rfl, 0, Nat.zero_le _, .here id⟩
        · exact ⟨known, steps + 1, Nat.succ_le_succ few, .next ⟨info, found, named⟩ path⟩
      · rintro ⟨known, steps, few, path⟩
        cases path with
        | here => exact .inl rfl
        | next first rest =>
          exact .inr ⟨_, (hasBase_iff found).mp first, known, _, Nat.le_of_succ_le_succ few, rest⟩

/-- The walk along interfaces finds what a path within the bound leads to, of at least one link. -/
theorem extendsWithin_iff :
    table.extendsWithin target links id = true ↔
      ∃ steps < links, Leads table.HasInterface (steps + 1) id target := by
  induction links generalizing id with
  | zero => simp [extendsWithin]
  | succ links ih =>
    cases found : table.get? id with
    | none =>
      simp only [extendsWithin, found, Bool.false_eq_true, false_iff]
      rintro ⟨steps, _, path⟩
      obtain ⟨_, ⟨info, present, _⟩, _⟩ := Leads.succ_iff.mp path
      rw [found] at present
      cases present
    | some info =>
      simp only [extendsWithin, found, List.any_eq_true, Bool.or_eq_true, beq_iff_eq, ih]
      constructor
      · rintro ⟨next, named, rfl | ⟨steps, few, path⟩⟩
        · exact ⟨0, Nat.zero_lt_succ _, .next ⟨info, found, named⟩ (.here next)⟩
        · exact ⟨steps + 1, Nat.succ_lt_succ few, .next ⟨info, found, named⟩ path⟩
      · rintro ⟨steps, few, path⟩
        obtain ⟨next, first, rest⟩ := Leads.succ_iff.mp path
        refine ⟨next, (hasInterface_iff found).mp first, ?_⟩
        cases steps with
        | zero => exact .inl (Leads.zero_iff.mp rest)
        | succ steps => exact .inr ⟨steps, Nat.lt_of_succ_lt_succ few, rest⟩

theorem implementsHere_iff :
    implementsWithin.implementsHere table target links id = true ↔
      ∃ steps ≤ links + 1, Leads table.HasInterface (steps + 1) id target := by
  have deeper : implementsWithin.implementsHere table target links id =
      table.extendsWithin target (links + 2) id := by
    simp only [implementsWithin.implementsHere, extendsWithin]
  rw [deeper, extendsWithin_iff]
  simp only [Nat.lt_succ_iff]

/-- The walk for an interface finds what a path leads to that goes up the base types first and then
along interfaces. The links of both count together, with one more than the bound to spare. -/
theorem implementsWithin_iff :
    table.implementsWithin target links id = true ↔
      ∃ up ≤ links, ∃ holder, Leads table.HasBase up id holder ∧
        ∃ steps, up + steps ≤ links + 1 ∧ Leads table.HasInterface (steps + 1) holder target := by
  induction links generalizing id with
  | zero =>
    rw [implementsWithin, implementsHere_iff]
    simp
  | succ links ih =>
    simp only [implementsWithin, Bool.or_eq_true, implementsHere_iff, Option.any_eq_true,
      Option.bind_eq_some_iff, ih]
    constructor
    · rintro (⟨steps, few, path⟩ | ⟨base, ⟨info, found, named⟩, up, low, holder, climb,
        steps, few, path⟩)
      · exact ⟨0, Nat.zero_le _, id, .here id, steps, by omega, path⟩
      · exact ⟨up + 1, by omega, holder, .next ⟨info, found, named⟩ climb, steps, by omega, path⟩
    · rintro ⟨up, low, holder, climb, steps, few, path⟩
      cases climb with
      | here => exact .inl ⟨steps, by omega, path⟩
      | next first rest => exact .inr ⟨_, first, _, by omega, holder, rest, steps, by omega, path⟩

/-- Where all paths from a type are short, it derives from every known type that its base types lead
to. -/
theorem derivesFrom_iff_of_bounded
    (bounded : ∀ links ancestor, Leads table.HasParent links id ancestor → links ≤ maxBaseDepth) :
    table.derivesFrom id base = true ↔
      (table.get? base).isSome = true ∧ ∃ links, Leads table.HasBase links id base := by
  rw [derivesFrom, derivesWithin_iff]
  refine and_congr_right fun _ => ⟨fun ⟨links, _, path⟩ => ⟨links, path⟩, fun ⟨links, path⟩ => ?_⟩
  exact ⟨links, bounded links base (path.mono .inl), path⟩

/-- Where all paths from a type are short, it implements all that its interfaces and those of its
base types lead to. -/
theorem implementsInterface_iff_of_bounded
    (bounded : ∀ links ancestor, Leads table.HasParent links id ancestor → links ≤ maxBaseDepth) :
    table.implementsInterface id target = true ↔
      ∃ up holder steps, Leads table.HasBase up id holder ∧
        Leads table.HasInterface (steps + 1) holder target := by
  rw [implementsInterface, implementsWithin_iff]
  constructor
  · rintro ⟨up, _, holder, climb, steps, _, path⟩
    exact ⟨up, holder, steps, climb, path⟩
  · rintro ⟨up, holder, steps, climb, path⟩
    have short := bounded _ _ ((climb.mono .inl).trans (path.mono .inr))
    exact ⟨up, by omega, holder, climb, steps, by omega, path⟩

theorem PathsBounded.derivesFrom_iff (bounded : table.PathsBounded) :
    table.derivesFrom id base = true ↔
      (table.get? base).isSome = true ∧ ∃ links, Leads table.HasBase links id base :=
  derivesFrom_iff_of_bounded fun links => bounded links id

theorem PathsBounded.implementsInterface_iff (bounded : table.PathsBounded) :
    table.implementsInterface id target = true ↔
      ∃ up holder steps, Leads table.HasBase up id holder ∧
        Leads table.HasInterface (steps + 1) holder target :=
  implementsInterface_iff_of_bounded fun links => bounded links id

/-- What the walks along base types and interfaces find, whatever the links are. A type derives from
the known types that at most 128 base links lead to. It implements what a path along interfaces
leads to from the type or from one of its first 128 base types; the links of both count together,
and 130 of them are followed. A link starts at a known type. Where all paths from the type have at
most 128 links, the walks find whatever can be reached. -/
theorem hierarchy_walks_exact (table : TypeTable) (id base target : TypeId) :
    (table.derivesFrom id base = true ↔
      (table.get? base).isSome = true ∧ ∃ up ≤ 128, Leads table.HasBase up id base) ∧
    (table.implementsInterface id target = true ↔
      ∃ up ≤ 128, ∃ holder, Leads table.HasBase up id holder ∧
        ∃ steps ≥ 1, (steps = 1 ∨ up + steps ≤ 130) ∧
          Leads table.HasInterface steps holder target) ∧
    ((∀ links ancestor, Leads table.HasParent links id ancestor → links ≤ 128) →
      (table.derivesFrom id base = true ↔
        (table.get? base).isSome = true ∧ Relation.ReflTransGen table.HasBase id base) ∧
      (table.implementsInterface id target = true ↔
        ∃ holder, Relation.ReflTransGen table.HasBase id holder ∧
          Relation.TransGen table.HasInterface holder target)) := by
  refine ⟨derivesWithin_iff, ?_, fun bounded => ⟨?_, ?_⟩⟩
  · rw [implementsInterface, implementsWithin_iff]
    constructor
    · rintro ⟨up, low, holder, climb, steps, few, path⟩
      rw [maxBaseDepth] at low few
      exact ⟨up, low, holder, climb, steps + 1, by omega, .inr (by omega), path⟩
    · rintro ⟨up, low, holder, climb, steps, positive, few, path⟩
      obtain ⟨more, rfl⟩ := Nat.exists_eq_add_of_le' positive
      -- A single interface link is followed from every base type that the walk comes to.
      have inside : up + more ≤ maxBaseDepth + 1 := by
        rw [maxBaseDepth]
        omega
      exact ⟨up, low, holder, climb, more, inside, path⟩
  · rw [derivesFrom_iff_of_bounded bounded, Leads.reflTransGen_iff]
  · rw [implementsInterface_iff_of_bounded bounded]
    simp only [Leads.reflTransGen_iff, Leads.transGen_iff]
    constructor
    · rintro ⟨up, holder, steps, climb, path⟩
      exact ⟨holder, ⟨up, climb⟩, steps, path⟩
    · rintro ⟨holder, ⟨up, climb⟩, steps, path⟩
      exact ⟨up, holder, steps, climb, path⟩

/-- Two interfaces that extend each other, a class of a base that is not known and one derived from
it, and a class whose only interface is not known. -/
def circularStreams : TypeTable :=
  [{ name := "IReader", shape := .interfaceType, interfaces := [⟨1⟩] },
    { name := "IWriter", shape := .interfaceType, interfaces := [⟨0⟩] },
    { name := "Stream", shape := .classType, base := some ⟨7⟩, interfaces := [⟨0⟩] },
    { name := "File", shape := .classType, base := some ⟨2⟩ },
    { name := "Pipe", shape := .classType, interfaces := [⟨9⟩] }].foldl TypeTable.push ⟨#[], [], 8⟩

/-- Files write as streams do, through the circle, but do not derive from what is not known. All
that pipes lead to is their one interface. -/
theorem circularStreams_walked :
    circularStreams.implementsInterface ⟨3⟩ ⟨1⟩ = true ∧
      circularStreams.derivesFrom ⟨3⟩ ⟨7⟩ = false ∧
      (∀ links ancestor, Leads circularStreams.HasParent links ⟨4⟩ ancestor → links ≤ 128) ∧
      circularStreams.implementsInterface ⟨4⟩ ⟨9⟩ = true := by
  have toStream : circularStreams.HasBase ⟨3⟩ ⟨2⟩ := ⟨_, rfl, rfl⟩
  have toReader : circularStreams.HasInterface ⟨2⟩ ⟨0⟩ := ⟨_, rfl, List.mem_singleton.mpr rfl⟩
  have toWriter : circularStreams.HasInterface ⟨0⟩ ⟨1⟩ := ⟨_, rfl, List.mem_singleton.mpr rfl⟩
  have toMissing : circularStreams.HasInterface ⟨4⟩ ⟨9⟩ := ⟨_, rfl, List.mem_singleton.mpr rfl⟩
  have bounded : ∀ links ancestor, Leads circularStreams.HasParent links ⟨4⟩ ancestor →
      links ≤ 128 := by
    rintro links ancestor (_ | ⟨⟨info, found, named⟩ | ⟨info, found, named⟩, rest⟩)
    · omega
    · cases found
      cases named
    · cases found
      obtain rfl := List.mem_singleton.mp named
      have stuck : ∀ next, ¬circularStreams.HasParent ⟨9⟩ next := by
        rintro next (⟨info, found, _⟩ | ⟨info, found, _⟩) <;> cases found
      have last := (rest.eq_of_no_link stuck).1
      omega
  refine ⟨?_, ?_, bounded, ?_⟩
  · exact (hierarchy_walks_exact circularStreams ⟨3⟩ ⟨7⟩ ⟨1⟩).2.1.mpr
      ⟨1, by omega, ⟨2⟩, .next toStream (.here _), 2, by omega, .inr (by omega),
        .next toReader (.next toWriter (.here _))⟩
  · rw [← Bool.not_eq_true, (hierarchy_walks_exact circularStreams ⟨3⟩ ⟨7⟩ ⟨1⟩).1]
    rintro ⟨known, _⟩
    cases known
  · exact ((hierarchy_walks_exact circularStreams ⟨4⟩ ⟨7⟩ ⟨9⟩).2.2 bounded).2.mpr ⟨⟨4⟩, .refl,
      .single toMissing⟩

end TypeTable

end DialectBinder
