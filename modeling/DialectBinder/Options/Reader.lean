import DialectBinder.Json.Value
import DialectBinder.Options.Basic

/-! Options written in JSON: an object with any of the nine fields, or an array of their values in
order. A field that is left out keeps its default, a field given twice is refused, and unknown
fields are passed over. -/

namespace DialectBinder.Options
open Json

/-- A dialect is its name, or an object whose one key is the name and whose value is null. -/
def readDialect? : Value → Option Dialect
  | .string units => text? units >>= Dialect.ofKey?
  | .object [(key, .null)] => text? key >>= Dialect.ofKey?
  | _ => none

def readBool? : Value → Option Bool
  | .bool value => some value
  | _ => none

/-- A size is written in digits alone and fits a byte. -/
def readSize? : Value → Option UInt8
  | .number literal =>
      if literal.all Char.isDigit then
        let size := literal.foldl (fun total digit => total * 10 + (digit.toNat - '0'.toNat)) 0
        if size < UInt8.size then some size.toUInt8 else none
      else none
  | _ => none

/-- Options whose fields come from `field`, which reads the field of a name and a position. -/
def assemble (field : {Content : Type} → String → Nat → (Value → Option Content) → Content → Option Content) :
    Option Options := do
  let base : Options := {}
  return {
    dialect := ← field "dialect" 0 readDialect? base.dialect
    preferFunctions := ← field "preferFunctionsOutsideClassScope" 1 readBool? base.preferFunctions
    signedUnsigned := ← field "signedUnsignedConversion" 2 readBool? base.signedUnsigned
    arithmetic := ← field "arithmeticConversions" 3 readBool? base.arithmetic
    pointerMagic := ← field "pointerMagic" 4 readBool? base.pointerMagic
    implicitCast := ← field "implicitCastAndConversion" 5 readBool? base.implicitCast
    lateBinding := ← field "lateBinding" 6 readBool? base.lateBinding
    caseSensitive := ← field "caseSensitive" 7 readBool? base.caseSensitive
    pointerSize := ← field "pointerSize" 8 readSize? base.pointerSize }

/-- The field of a name in an object: its one value, the default without any. -/
def namedField {Content : Type} (entries : List (String × Value)) (name : String)
    (read : Value → Option Content) (default : Content) : Option Content :=
  match entries.filter fun entry => entry.1 == name with
  | [] => some default
  | [entry] => read entry.2
  | _ => none

/-- The field at a position of an array, the default beyond its end. -/
def placedField {Content : Type} (values : List Value) (position : Nat)
    (read : Value → Option Content) (default : Content) : Option Content :=
  match values[position]? with
  | none => some default
  | some value => read value

def ofJson? (text : String) : Option Options := do
  match ← parse? text with
  | .object entries =>
      let named ← entries.mapM fun (key, value) => (text? key).map (·, value)
      assemble fun name _ read default => namedField named name read default
  | .array values =>
      guard (values.length ≤ 9)
      assemble fun _ position read default => placedField values position read default
  | _ => none

end DialectBinder.Options
