import Mathlib.Logic.Relation
import DialectBinder.Expr.Arena

/-! The expressions of an arena form a forest. Each is added after the operands that it adopts,
operands that do not exist are passed over, and none is adopted twice. So the parent of an
expression is the one later expression that has it among its operands, and walking up the parents is
looking for what was added around the expression. -/

namespace DialectBinder.ExprArena

/-- The arenas that adding expressions leads to. -/
inductive Built : ExprArena → Prop where
  | start : Built ⟨#[]⟩
  | add {arena later : ExprArena} (kind : ExprKind) (type : TypeId) (span : Span) (generated : Bool)
      (before : Built arena)
      (added : arena.add kind type span generated = .ok later) : Built later

def HasOperand (arena : ExprArena) (id operand : ExprId) : Prop :=
  ∃ kind, arena.kind? id = some kind ∧ operand ∈ kind.children

/-- The one expression is a conversion of the other, added after it. -/
def Converts (arena : ExprArena) (id operand : ExprId) : Prop :=
  operand.index < id.index ∧ ∃ explicit, arena.kind? id = some (.conversion operand explicit)

/-- The outer expression is the inner one wrapped in this many conversions. -/
inductive Wraps (arena : ExprArena) : Nat → ExprId → ExprId → Prop where
  | here (id : ExprId) : Wraps arena 0 id id
  | next {conversions : Nat} {outer middle inner : ExprId} (first : arena.Converts middle inner)
      (rest : Wraps arena conversions outer middle) : Wraps arena (conversions + 1) outer inner

/-- The one expression is an assignment of the other, added after it. -/
def Assigns (arena : ExprArena) (id value : ExprId) : Prop :=
  value.index < id.index ∧ ∃ target, arena.kind? id = some (.assignment target value)

section Adoption

/-- The expression at a place once the operands of a list have this parent. -/
def adopted (parent : ExprId) (children : List ExprId) (place : Nat) (node : Expr) : Expr :=
  if ⟨place⟩ ∈ children then { node with parent := some parent } else node

theorem adopted_nil (parent : ExprId) (place : Nat) : adopted parent [] place = id := by
  funext node
  simp [adopted]

@[simp]
theorem kind_adopted (parent : ExprId) (children : List ExprId) (place : Nat) (node : Expr) :
    (adopted parent children place node).kind = node.kind := by
  unfold adopted
  split <;> rfl

@[simp]
theorem parent_adopted (parent : ExprId) (children : List ExprId) (place : Nat) (node : Expr) :
    (adopted parent children place node).parent =
      if ⟨place⟩ ∈ children then some parent else node.parent := by
  unfold adopted
  split <;> rfl

theorem adopted_cons_of_ne {parent child : ExprId} {children : List ExprId} {place : Nat}
    (different : (⟨place⟩ : ExprId) ≠ child) : adopted parent (child :: children) place =
    adopted parent children place := by
  funext node
  simp [adopted, different]

/-- What adopting operands does. Those that exist had no parent, stand in the list once and get this
parent. All else stays as it was. -/
structure Adopts (parent : ExprId) (children : List ExprId) (nodes later : Array Expr) : Prop where
  free : ∀ child ∈ children, ∀ node, nodes[child.index]? = some node → node.parent = none
  once : ∀ child : ExprId, child.index < nodes.size → children.count child ≤ 1
  entries : ∀ place, later[place]? = nodes[place]?.map (adopted parent children place)

variable {parent child : ExprId} {children : List ExprId} {nodes later : Array Expr}

theorem Adopts.skip (missing : nodes[child.index]? = none)
    (adopts : Adopts parent children nodes later) :
    Adopts parent (child :: children) nodes later where
  free other member node present := by
    rcases List.mem_cons.mp member with rfl | member
    · rw [missing] at present
      cases present
    · exact adopts.free other member node present
  once other inside := by
    have different : child ≠ other := by
      rintro rfl
      exact Nat.not_lt_of_le (Array.getElem?_eq_none_iff.mp missing) inside
    rw [List.count_cons_of_ne different]
    exact adopts.once other inside
  entries place := by
    rw [adopts.entries]
    by_cases same : (⟨place⟩ : ExprId) = child
    · subst same
      rw [missing]
      rfl
    · rw [adopted_cons_of_ne same]

/-- An operand without a parent gets one, and so cannot come again. -/
theorem Adopts.take {node : Expr} (present : nodes[child.index]? = some node)
    (orphan : node.parent = none)
    (adopts : Adopts parent children (nodes.modify child.index fun node =>
      { node with parent := some parent }) later) :
    Adopts parent (child :: children) nodes later := by
  have absent : child ∉ children := by
    intro member
    have taken :=
      adopts.free child member { node with parent := some parent }
      (by simp [Array.getElem?_modify, present])
    cases taken
  have others {other : ExprId} (different : child ≠ other) :
      (nodes.modify child.index fun node => { node with parent := some parent })[other.index]? =
      nodes[other.index]? := by
    rw [Array.getElem?_modify, if_neg fun same => different (congrArg ExprId.mk same)]
  refine ⟨?_, ?_, ?_⟩
  · intro other member found same
    rcases List.mem_cons.mp member with rfl | member
    · rw [present] at same
      cases same
      exact orphan
    · have different : child ≠ other := fun same => absent (same ▸ member)
      exact adopts.free other member found ((others different).trans same)
  · intro other inside
    by_cases same : child = other
    · subst same
      have uncounted := List.count_eq_zero_of_not_mem absent
      rw [List.count_cons_self]
      omega
    · rw [List.count_cons_of_ne same]
      exact adopts.once other (by rwa [Array.size_modify])
  · intro place
    rw [adopts.entries, Array.getElem?_modify]
    by_cases same : child.index = place
    · subst same
      simp [adopted, absent, present]
    · rw [if_neg same, adopted_cons_of_ne fun equal => same (congrArg ExprId.index equal).symm]

theorem adopts_of_adopt (done : adopt parent children nodes = .ok later) :
    Adopts parent children nodes later := by
  induction children generalizing nodes with
  | nil =>
    cases done
    exact ⟨by simp, by simp, fun place => by rw [adopted_nil, Option.map_id]; rfl⟩
  | cons child rest ih =>
    rw [adopt] at done
    split at done
    · rename_i missing
      exact (ih done).skip missing
    · rename_i node present
      split at done
      · cases done
      · rename_i orphan
        exact (ih done).take present (by simpa using orphan)

theorem Adopts.size_eq (adopts : Adopts parent children nodes later) : later.size = nodes.size := by
  have ends (place : Nat) : later.size ≤ place ↔ nodes.size ≤ place := by
    rw [← Array.getElem?_eq_none_iff, adopts.entries, Option.map_eq_none_iff,
      Array.getElem?_eq_none_iff]
  exact Nat.le_antisymm ((ends _).mpr (Nat.le_refl _)) ((ends _).mp (Nat.le_refl _))

end Adoption

/-- What adding an expression does. Its operands that exist had no parent and stand among the
operands once; now it is their parent. All other expressions are as before. -/
structure Adds (arena : ExprArena) (kind : ExprKind) (later : ExprArena) : Prop where
  kinds : ∀ id, later.kind? id = if id = arena.nextId then some kind else arena.kind? id
  parents : ∀ id, later.parent? id =
    if id.index < arena.size ∧ id ∈ kind.children then some arena.nextId else arena.parent? id
  free : ∀ id ∈ kind.children, arena.parent? id = none
  once : ∀ id : ExprId, id.index < arena.size → kind.children.count id ≤ 1

variable {arena later : ExprArena} {kind : ExprKind} {id child parent : ExprId}

theorem adds_of_add {type : TypeId} {span : Span} {generated : Bool}
    (added : arena.add kind type span generated = .ok later) : arena.Adds kind later := by
  obtain ⟨nodes, done, rfl⟩ : ∃ nodes, adopt arena.nextId kind.children arena.nodes = .ok nodes ∧
      later = ⟨nodes.push { kind, type, span, generated }⟩ := by
    cases done : adopt arena.nextId kind.children arena.nodes with
    | error fault => simp [add, done, bind, Except.bind] at added
    | ok nodes =>
      simp only [add, done, bind, Except.bind, pure, Except.pure, Except.ok.injEq] at added
      exact ⟨nodes, rfl, added.symm⟩
  have adopts := adopts_of_adopt done
  have found (id : ExprId) : (⟨nodes.push { kind, type, span, generated }⟩ : ExprArena).get? id =
      if id = arena.nextId then some { kind, type, span, generated }
      else (arena.get? id).map (adopted arena.nextId kind.children id.index) := by
    have last : id = arena.nextId ↔ id.index = nodes.size := by
      rw [adopts.size_eq]
      exact ⟨congrArg ExprId.index, congrArg ExprId.mk⟩
    simp only [get?, Array.getElem?_push, last, adopts.entries]
  refine ⟨?_, ?_, ?_, adopts.once⟩
  · intro id
    rw [kind?, found]
    split
    · rfl
    · rw [Option.map_map]
      exact congrArg (Option.map · (arena.get? id)) (funext fun node => kind_adopted _ _ _ node)
  · intro id
    rw [parent?, found]
    cases present : arena.get? id with
    | none =>
      have outside : ¬id.index < arena.size :=
        Nat.not_lt_of_le (Array.getElem?_eq_none_iff.mp present)
      split <;> simp [parent?, present, outside]
    | some node =>
      have inside : id.index < arena.size := (Array.getElem?_eq_some_iff.mp present).1
      have older : id ≠ arena.nextId := by
        rintro rfl
        exact Nat.lt_irrefl _ inside
      simp [parent?, present, inside, older]
  · intro id member
    cases present : arena.get? id with
    | none => simp [parent?, present]
    | some node => simp [parent?, present, adopts.free id member node present]

theorem index_lt_of_kind? (found : arena.kind? id = some kind) : id.index < arena.size := by
  obtain ⟨node, present, _⟩ := Option.map_eq_some_iff.mp found
  exact (Array.getElem?_eq_some_iff.mp present).1

theorem Adds.hasOperand_iff (adds : arena.Adds kind later) :
    later.HasOperand parent child ↔
      (parent = arena.nextId ∧ child ∈ kind.children) ∨
      (parent ≠ arena.nextId ∧ arena.HasOperand parent child) := by
  unfold HasOperand
  rw [adds.kinds]
  by_cases last : parent = arena.nextId <;> simp [last]

/-- The parent of an expression is the later expression that has it among its operands, where it
stands once. -/
structure Forest (arena : ExprArena) : Prop where
  parents : ∀ child parent, arena.parent? child = some parent ↔
    child.index < parent.index ∧ arena.HasOperand parent child
  once : ∀ parent kind, arena.kind? parent = some kind → ∀ child :
    ExprId, child.index < parent.index →
    kind.children.count child ≤ 1

theorem Forest.start : Forest ⟨#[]⟩ := by
  constructor <;> simp [HasOperand, parent?, kind?, get?]

theorem Forest.add (forest : arena.Forest) (adds : arena.Adds kind later) : later.Forest where
  parents child parent := by
    rw [adds.parents, adds.hasOperand_iff]
    by_cases last : parent = arena.nextId
    · subst last
      -- No earlier expression has the new one for its parent.
      have unknown : ¬arena.parent? child = some arena.nextId := by
        intro known
        obtain ⟨_, kind, present, _⟩ := (forest.parents child arena.nextId).mp known
        exact Nat.lt_irrefl _ (index_lt_of_kind? present)
      have place : arena.nextId.index = arena.size := rfl
      simp [unknown, place]
    · by_cases taken : child.index < arena.size ∧ child ∈ kind.children
      · -- What is adopted now had no parent before.
        have orphan := adds.free child taken.2
        have unlisted := mt (forest.parents child parent).mpr (by simp [orphan])
        simp [taken, last, Ne.symm last, unlisted]
      · simp [taken, last, forest.parents]
  once := by
    intro parent present found child before
    rw [adds.kinds] at found
    split at found
    · rename_i last
      cases found
      subst last
      exact adds.once child before
    · exact forest.once parent present found child before

theorem Built.forest (built : arena.Built) : arena.Forest := by
  induction built with
  | start => exact .start
  | add _ _ _ _ _ added before => exact before.add (adds_of_add added)

section Walks

variable (forest : arena.Forest)

include forest

theorem Forest.parent?_of_operand (found : arena.kind? parent = some kind)
    (operand : child ∈ kind.children) (before : child.index < parent.index) :
    arena.parent? child = some parent :=
  (forest.parents child parent).mpr ⟨before, kind, found, operand⟩

/-- Every walk up the parents goes on to later expressions. -/
theorem Forest.index_lt_of_above
    (above : Relation.TransGen (fun id next => arena.parent? id = some next) child parent) :
    child.index < parent.index := by
  induction above with
  | single named => exact ((forest.parents _ _).mp named).1
  | tail _ named lower => exact Nat.lt_trans lower ((forest.parents _ _).mp named).1

theorem Forest.isLegacyCastOperand_iff :
    arena.isLegacyCastOperand id = true ↔
      ∃ cast : ExprId, id.index < cast.index ∧ arena.kind? cast = some (.legacyCast id) := by
  constructor
  · intro operand
    unfold isLegacyCastOperand at operand
    split at operand
    · rename_i inner cast
      obtain ⟨parent, named, found⟩ := Option.bind_eq_some_iff.mp cast
      obtain ⟨before, kind, present, member⟩ := (forest.parents id parent).mp named
      rw [found] at present
      cases present
      obtain rfl := List.mem_singleton.mp member
      exact ⟨parent, before, found⟩
    · cases operand
  · rintro ⟨cast, before, found⟩
    have named := forest.parent?_of_operand found (List.mem_singleton.mpr rfl) before
    simp [isLegacyCastOperand, named, found]

/-- One step up ends at the assignment of the expression, or goes on from its conversion. -/
theorem Forest.assignmentWithin_succ_iff {steps : Nat} {assignment : ExprId} :
    arena.assignmentWithin (steps + 1) id = some assignment ↔
      arena.Assigns assignment id ∨
        ∃ middle, arena.Converts middle id ∧
          arena.assignmentWithin steps middle = some assignment := by
  constructor
  · intro found
    rw [assignmentWithin] at found
    split at found
    · cases found
    · rename_i parent named
      obtain ⟨before, kind, present, member⟩ := (forest.parents id parent).mp named
      split at found
      · rename_i operand explicit conversion
        rw [conversion] at present
        cases present
        obtain rfl := List.mem_singleton.mp member
        exact .inr ⟨parent, ⟨before, explicit, conversion⟩, found⟩
      · rename_i target value assigned
        split at found
        · rename_i same
          cases found
          obtain rfl := beq_iff_eq.mp same
          exact .inl ⟨before, target, assigned⟩
        · cases found
      · cases found
  · rintro (⟨before, target, assigned⟩ | ⟨middle, ⟨before, explicit, conversion⟩, found⟩)
    · have named := forest.parent?_of_operand assigned (by simp [ExprKind.children]) before
      simp [assignmentWithin, named, assigned]
    · have named := forest.parent?_of_operand conversion (List.mem_singleton.mpr rfl) before
      simpa [assignmentWithin, named, conversion] using found

/-- The walk up finds the assignment of what wraps the expression in fewer conversions than it takes
steps. -/
theorem Forest.assignmentWithin_iff {steps : Nat} {assignment : ExprId} :
    arena.assignmentWithin steps id = some assignment ↔
      ∃ conversions < steps, ∃ value, arena.Wraps conversions value id ∧
        arena.Assigns assignment value := by
  induction steps generalizing id with
  | zero => simp [assignmentWithin]
  | succ steps ih =>
    simp only [forest.assignmentWithin_succ_iff, ih]
    constructor
    · rintro (assigns | ⟨middle, converts, conversions, few, value, wraps, assigns⟩)
      · exact ⟨0, Nat.zero_lt_succ steps, id, .here id, assigns⟩
      · exact ⟨conversions + 1, Nat.succ_lt_succ few, value, .next converts wraps, assigns⟩
    · rintro ⟨conversions, few, value, wraps, assigns⟩
      cases wraps with
      | here => exact .inl assigns
      | next first rest =>
        exact .inr ⟨_, first, _, Nat.lt_of_succ_lt_succ few, value, rest, assigns⟩

end Walks

/-- The forest of an arena that adding expressions leads to. The parent of an expression is the
later expression that has it among its operands; there is one at most, and it has the operand once.
Parents lead to later and later expressions. An expression is the operand of a legacy cast if a
later one is such a cast of it, and its enclosing assignment is the one whose value wraps it in at
most 63 conversions. -/
theorem parents_are_adopters (built : arena.Built) :
    (∀ child parent, arena.parent? child = some parent ↔
      child.index < parent.index ∧ arena.HasOperand parent child) ∧
    (∀ child one other : ExprId, child.index < one.index → arena.HasOperand one child →
      child.index < other.index → arena.HasOperand other child → one = other) ∧
    (∀ parent kind, arena.kind? parent = some kind → ∀ child : ExprId, child.index < parent.index →
      kind.children.count child ≤ 1) ∧
    (∀ child above, Relation.TransGen (fun id next => arena.parent? id = some next) child above →
      child.index < above.index) ∧
    (∀ child, arena.isLegacyCastOperand child = true ↔
      ∃ cast : ExprId, child.index < cast.index ∧ arena.kind? cast = some (.legacyCast child)) ∧
    ∀ child assignment, arena.enclosingAssignment? child = some assignment ↔
      ∃ conversions ≤ 63, ∃ value, arena.Wraps conversions value child ∧
        arena.Assigns assignment value := by
  have forest := built.forest
  refine ⟨forest.parents, ?_, forest.once, fun _ _ => forest.index_lt_of_above,
    fun _ => forest.isLegacyCastOperand_iff, ?_⟩
  · intro child one other beforeOne ofOne beforeOther ofOther
    have named := (forest.parents child one).mpr ⟨beforeOne, ofOne⟩
    have alsoNamed := (forest.parents child other).mpr ⟨beforeOther, ofOther⟩
    exact Option.some.inj (named.symm.trans alsoNamed)
  · intro child assignment
    rw [enclosingAssignment?, forest.assignmentWithin_iff]
    simp only [maxConversionSteps, Nat.lt_succ_iff]

/-- A call on an assignment of a number that is cast down first. The call lists an expression twice
that is not there. -/
def narrowingCall : ExprArena where
  nodes := #[
    { kind := .variableAccess none, type := .short, parent := some ⟨3⟩ },
    { kind := .variableAccess none, type := .long, parent := some ⟨2⟩ },
    { kind := .conversion ⟨1⟩ true, type := .short, parent := some ⟨3⟩ },
    { kind := .assignment ⟨0⟩ ⟨2⟩, type := .short, parent := some ⟨4⟩ },
    { kind := .call [⟨3⟩, ⟨9⟩, ⟨9⟩], type := .void, generated := true }]

/-- The assignment belongs to the call, and the number is seen in the assignment through its
conversion. -/
theorem narrowingCall_adopts :
    narrowingCall.Built ∧ narrowingCall.parent? ⟨3⟩ = some ⟨4⟩ ∧
      narrowingCall.enclosingAssignment? ⟨1⟩ = some ⟨3⟩ := by
  have built : narrowingCall.Built :=
    .add (.call [⟨3⟩, ⟨9⟩, ⟨9⟩]) .void .dummy true
      (.add (.assignment ⟨0⟩ ⟨2⟩) .short .dummy false
        (.add (.conversion ⟨1⟩ true) .short .dummy false
          (.add (.variableAccess none) .long .dummy false
            (.add (.variableAccess none) .short .dummy false .start rfl) rfl) rfl) rfl) rfl
  obtain ⟨parents, _, _, _, _, assignments⟩ := parents_are_adopters built
  have wrapped : narrowingCall.Wraps 1 ⟨2⟩ ⟨1⟩ := .next ⟨by decide, true, rfl⟩ (.here _)
  refine ⟨built, (parents _ _).mpr ⟨by decide, _, rfl, List.mem_cons_self⟩,
    (assignments _ _).mpr ?_⟩
  exact ⟨1, by omega, ⟨2⟩, wrapped, by decide, ⟨0⟩, rfl⟩

end DialectBinder.ExprArena
