/-! The table of numbered messages. -/

namespace DialectBinder

inductive Severity where
  | warning
  | error
  | suggestion
  | message
deriving DecidableEq, Repr

def Severity.name : Severity → String
  | .warning => "Warning"
  | .error => "Error"
  | .suggestion => "Suggestion"
  | .message => "Message"

structure Message where
  code : Nat
  severity : Severity
  template : String
deriving DecidableEq, Repr

namespace Message

def cannotConvert : Message :=
  ⟨29, .error, "Cannot implicitly convert type '\x7b0\x7d' to '\x7b1\x7d'."⟩

def ambiguousReference : Message :=
  ⟨104, .error, "'\x7b0\x7d' is an ambiguous reference between '\x7b1\x7d' and '\x7b2\x7d'."⟩

def ambiguousCall : Message :=
  ⟨121, .error, "The call is ambiguous between the following methods or properties: '\x7b0\x7d' and '\x7b1\x7d'."⟩

def inaccessible : Message :=
  ⟨122, .error, "'\x7b0\x7d' is inaccessible due to its protection level (\x7b1\x7d)."⟩

def noApplicableOverload : Message :=
  ⟨1501, .error, "No overload for method '\x7b0\x7d' takes these arguments."⟩

def signChange : Message :=
  ⟨9020, .warning, "Conversion from '\x7b0\x7d' to '\x7b1\x7d' may change the sign of the result."⟩

def narrowing : Message :=
  ⟨9021, .warning, "Conversion from '\x7b0\x7d' to '\x7b1\x7d' may lead to loss of data or overflow errors."⟩

def functionOrMethod : Message :=
  ⟨9043, .warning,
    "Ambiguous call: '\x7b0\x7d' could be the function '\x7b1\x7d' or the method '\x7b2\x7d'. The method was chosen."⟩

def functionChosen : Message :=
  ⟨9044, .warning, "Function '\x7b0\x7d' exists in several assemblies; the one in '\x7b1\x7d' was chosen."⟩

def table : List Message :=
  [cannotConvert, ambiguousReference, ambiguousCall, inaccessible, noApplicableOverload, signChange, narrowing,
    functionOrMethod, functionChosen]

def find? (code : Nat) : Option Message := table.find? fun message => message.code == code

end Message

end DialectBinder
