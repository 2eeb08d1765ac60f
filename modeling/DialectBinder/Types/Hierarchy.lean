import DialectBinder.Bounds
import DialectBinder.Types.Predicate

/-! Base types and interfaces. The links may lead nowhere or in circles, so every walk is bounded. -/

namespace DialectBinder.TypeTable

/-- Whether `base` is the type itself or one of its first `links` base types. Every type on the way,
the last one included, has to be known. -/
def derivesWithin (table : TypeTable) (base : TypeId) : Nat → TypeId → Bool
  | 0, id => (table.get? id).isSome && id == base
  | links + 1, id =>
      match table.get? id with
      | none => false
      | some info => id == base || info.base.any (table.derivesWithin base links)

/-- Whether the type is `base` or derives from it. -/
def derivesFrom (table : TypeTable) (derived base : TypeId) : Bool :=
  table.derivesWithin base maxBaseDepth derived

/-- Whether an interface reaches `target` by at least one and at most `links` interface links. -/
def extendsWithin (table : TypeTable) (target : TypeId) : Nat → TypeId → Bool
  | 0, _ => false
  | links + 1, id =>
      match table.get? id with
      | none => false
      | some info => info.interfaces.any fun next => next == target || table.extendsWithin target links next

/-- Whether the type or one of its first `links` base types implements `target`. The further up the
implementing base type is, the fewer interface links are followed from there. -/
def implementsWithin (table : TypeTable) (target : TypeId) : Nat → TypeId → Bool
  | 0, id => implementsHere table target 0 id
  | links + 1, id =>
      implementsHere table target (links + 1) id ||
        ((table.get? id).bind (·.base)).any (table.implementsWithin target links)
where
  implementsHere (table : TypeTable) (target : TypeId) (links : Nat) (id : TypeId) : Bool :=
    match table.get? id with
    | none => false
    | some info =>
        info.interfaces.any fun next => next == target || table.extendsWithin target (links + 1) next

/-- Whether the type, a base type or one of their interfaces implements the interface. -/
def implementsInterface (table : TypeTable) (id target : TypeId) : Bool :=
  table.implementsWithin target maxBaseDepth id

/-- The class of code blocks or one derived from it. -/
def isCodeblockLike (table : TypeTable) (id : TypeId) : Bool := table.derivesFrom id .codeblock

/-- The legacy array class or one derived from it. -/
def isLegacyArrayLike (table : TypeTable) (id : TypeId) : Bool := table.derivesFrom id .array

end DialectBinder.TypeTable
