import DialectBinder.Identity

/-! The module being compiled and its references, in reference order. -/

namespace DialectBinder

structure Assembly where
  name : String
  /-- A runtime kept for old sources; its members lose every tie against those of other assemblies. -/
  legacyRuntime : Bool
deriving DecidableEq, Repr

structure AssemblyTable where
  assemblies : Array Assembly

namespace AssemblyTable

/-- The table of a module without references. -/
def ofCurrent (name : String) : AssemblyTable := ⟨#[⟨name, false⟩]⟩

def size (table : AssemblyTable) : Nat := table.assemblies.size

def nextId (table : AssemblyTable) : AssemblyId := ⟨table.size⟩

/-- Append a reference, under `nextId`. -/
def addReference (table : AssemblyTable) (name : String) (legacyRuntime : Bool) : AssemblyTable :=
  ⟨table.assemblies.push ⟨name, legacyRuntime⟩⟩

def get? (table : AssemblyTable) (id : AssemblyId) : Option Assembly := table.assemblies[id.index]?

def name (table : AssemblyTable) (id : AssemblyId) : String :=
  match table.get? id with
  | some assembly => assembly.name
  | none => "<unknown>"

def isLegacyRuntime (table : AssemblyTable) (id : AssemblyId) : Bool := (table.get? id).any (·.legacyRuntime)

/-- Place in the reference list; the module being compiled comes first. -/
def referenceOrder? (table : AssemblyTable) (id : AssemblyId) : Option Nat :=
  (table.get? id).map fun _ => id.index

/-- Whether one assembly is referenced before another; unknown assemblies come last. -/
def referencedBefore (table : AssemblyTable) (left right : AssemblyId) : Bool :=
  match table.referenceOrder? left, table.referenceOrder? right with
  | some leftOrder, some rightOrder => leftOrder < rightOrder
  | some _, none => true
  | none, _ => false

end AssemblyTable

end DialectBinder
