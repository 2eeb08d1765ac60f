import DialectBinder.Diagnostic.Basic

/-! Diagnostics in the order of their first report. A diagnostic that is reported again is not
stored again, so a query may be repeated. -/

namespace DialectBinder

structure DiagnosticBag where
  items : List Diagnostic := []
deriving DecidableEq, Repr

namespace DiagnosticBag

def contains (bag : DiagnosticBag) (diagnostic : Diagnostic) : Bool := bag.items.contains diagnostic

def push (bag : DiagnosticBag) (diagnostic : Diagnostic) : DiagnosticBag :=
  if bag.contains diagnostic then bag else ⟨bag.items ++ [diagnostic]⟩

def extend (bag : DiagnosticBag) (diagnostics : List Diagnostic) : DiagnosticBag :=
  diagnostics.foldl push bag

def size (bag : DiagnosticBag) : Nat := bag.items.length

def hasErrors (bag : DiagnosticBag) : Bool := bag.items.any Diagnostic.isError

end DiagnosticBag

end DialectBinder
