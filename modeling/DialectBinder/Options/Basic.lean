import DialectBinder.Dialect

/-! The compatibility options of one compilation unit. A pragma derives new options and leaves
the old ones as they were. -/

namespace DialectBinder

structure Options where
  dialect : Dialect := .core
  /-- Look for free functions at namespace level before the scopes are walked. -/
  preferFunctions : Bool := false
  /-- Integers of one width convert implicitly whatever their sign. -/
  signedUnsigned : Bool := false
  /-- Numbers of different widths convert implicitly. -/
  arithmetic : Bool := false
  /-- Pointers box. -/
  pointerMagic : Bool := false
  /-- Downcasts and the way between objects and pointers are implicit. -/
  implicitCast : Bool := false
  lateBinding : Bool := false
  caseSensitive : Bool := false
  /-- Pointer width of the platform, in bytes. -/
  pointerSize : UInt8 := 8
deriving DecidableEq, Repr

namespace Options

/-- The preset of a dialect, with every compatibility switch off. -/
def forDialect (dialect : Dialect) : Options where
  dialect := dialect
  preferFunctions := dialect.prefersFreeFunctions
  caseSensitive := dialect == .core

def withPragma (options : Options) (pragma : Pragma) (enabled : Bool) : Options :=
  match pragma with
  | .preferFunctions => { options with preferFunctions := enabled }
  | .signedUnsignedConversion => { options with signedUnsigned := enabled }
  | .arithmeticConversions => { options with arithmetic := enabled }
  | .pointerMagic => { options with pointerMagic := enabled }
  | .implicitCastAndConversion => { options with implicitCast := enabled }
  | .lateBinding => { options with lateBinding := enabled }

def withFlags (options : Options) (pragmas : List Pragma) : Options :=
  pragmas.foldl (fun current pragma => current.withPragma pragma true) options

/-- Whether the conversion rules of the legacy dialects apply. -/
def legacyRules (options : Options) : Bool := options.dialect.hasLegacyRuntime

/-- Whether either switch on implicit numeric conversions is on. -/
def anyNumericCompatibility (options : Options) : Bool := options.signedUnsigned || options.arithmetic

/-- Whether two identifiers are the same name. -/
def namesEqual (options : Options) (left right : String) : Bool :=
  if options.caseSensitive then left == right else Text.sameIgnoringCase left right

end Options

end DialectBinder
