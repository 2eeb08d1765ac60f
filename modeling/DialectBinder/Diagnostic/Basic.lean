import DialectBinder.Diagnostic.Message
import DialectBinder.Diagnostic.Template
import DialectBinder.Span

/-! Findings about the program being compiled. -/

namespace DialectBinder

/-- Another place that a diagnostic points to. -/
structure RelatedPlace where
  file : String
  span : Span
  text : String
deriving DecidableEq, Repr

structure Diagnostic where
  file : String
  span : Span
  text : String
  severity : Severity
  code : Nat
  related : List RelatedPlace := []
deriving DecidableEq, Repr

namespace Diagnostic

def error (file : String) (span : Span) (text : String) (code : Nat) : Diagnostic :=
  { file, span, text, severity := .error, code }

def warning (file : String) (span : Span) (text : String) (code : Nat) : Diagnostic :=
  { file, span, text, severity := .warning, code }

/-- A message of the table with its placeholders filled. -/
def ofMessage (file : String) (span : Span) (message : Message) (arguments : List String) : Diagnostic :=
  { file, span, text := Template.format message.template arguments, severity := message.severity,
    code := message.code }

/-- The message of a code; a code outside the table is an error without a text. -/
def ofCode (file : String) (span : Span) (code : Nat) (arguments : List String) : Diagnostic :=
  match Message.find? code with
  | some message => ofMessage file span message arguments
  | none => error file span "" code

def withRelated (diagnostic : Diagnostic) (place : RelatedPlace) : Diagnostic :=
  { diagnostic with related := diagnostic.related ++ [place] }

def isError (diagnostic : Diagnostic) : Bool := diagnostic.severity == .error

end Diagnostic

end DialectBinder
