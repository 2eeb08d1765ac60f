import DialectBinder.Text.Case

/-! The dialects of the xBase family and the compatibility switches of a source file. -/

namespace DialectBinder

inductive Dialect where
  /-- The core language alone. -/
  | core
  | vo
  | vulcan
  | harbour
  | xbasePlusPlus
  | foxPro
deriving DecidableEq, Repr

namespace Dialect

/-- Every dialect but the core language has the legacy runtime and its conversion rules. -/
def hasLegacyRuntime (dialect : Dialect) : Bool := dialect != core

/-- Whether a free function beats a static method of the same name. -/
def prefersFreeFunctions (dialect : Dialect) : Bool := dialect != core

def displayName : Dialect → String
  | core => "Core"
  | vo => "VO"
  | vulcan => "Vulcan"
  | harbour => "Harbour"
  | xbasePlusPlus => "Xbase++"
  | foxPro => "FoxPro"

/-- The dialect of a name written in small letters. -/
def ofKey? : String → Option Dialect
  | "core" => some core
  | "vo" => some vo
  | "vulcan" => some vulcan
  | "harbour" => some harbour
  | "xpp" => some xbasePlusPlus
  | "foxpro" => some foxPro
  | _ => none

/-- The dialect of a name in any case; `xbasepp` is a second name of `xpp`. -/
def parse? (name : String) : Option Dialect :=
  match Text.fold name with
  | "xbasepp" => some xbasePlusPlus
  | key => ofKey? key

end Dialect

/-- A switch that may be turned per source location. -/
inductive Pragma where
  | preferFunctions
  | signedUnsignedConversion
  | arithmeticConversions
  | pointerMagic
  | implicitCastAndConversion
  | lateBinding
deriving DecidableEq, Repr

def Pragma.name : Pragma → String
  | preferFunctions => "PreferFunctions"
  | signedUnsignedConversion => "SignedUnsignedConversion"
  | arithmeticConversions => "ArithmeticConversions"
  | pointerMagic => "PointerMagic"
  | implicitCastAndConversion => "ImplicitCastAndConversion"
  | lateBinding => "LateBinding"

/-- The switch of an option code or of a descriptive name, in any case. -/
def Pragma.parse? (name : String) : Option Pragma :=
  match Text.fold name with
  | "preferfunctions" | "prefer-functions" => some .preferFunctions
  | "vo4" | "signedunsignedconversion" => some .signedUnsignedConversion
  | "vo11" | "arithmeticconversions" => some .arithmeticConversions
  | "vo6" | "pointermagic" => some .pointerMagic
  | "vo7" | "implicitcastandconversion" => some .implicitCastAndConversion
  | "lb" | "latebinding" => some .lateBinding
  | _ => none

end DialectBinder
