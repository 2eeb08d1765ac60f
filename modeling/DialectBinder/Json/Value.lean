/-! JSON text read into a tree that keeps strings and numbers as they are written: a string is its
code units, so that a lone surrogate escape can be told from text, and a number its characters. -/

namespace DialectBinder.Json

inductive Value where
  | null
  | bool (value : Bool)
  | number (literal : List Char)
  | string (units : List Nat)
  | array (elements : List Value)
  | object (members : List (List Nat × Value))

/-- The text of code units, if every surrogate is one of a pair. -/
def text? (units : List Nat) : Option String := (characters? units).map String.ofList
where
  isHigh (unit : Nat) : Bool := 0xD800 ≤ unit && unit < 0xDC00
  isLow (unit : Nat) : Bool := 0xDC00 ≤ unit && unit < 0xE000
  characters? : List Nat → Option (List Char)
    | [] => some []
    | high :: low :: rest =>
        if isHigh high then
          if isLow low then
            (characters? rest).map (Char.ofNat ((high - 0xD800) * 0x400 + (low - 0xDC00) + 0x10000) :: ·)
          else none
        else if isLow high then none
        else (characters? (low :: rest)).map (Char.ofNat high :: ·)
    | [unit] => if isHigh unit || isLow unit then none else some [Char.ofNat unit]

def isSpace (character : Char) : Bool :=
  character == ' ' || character == '\n' || character == '\t' || character == '\r'

def skipSpace (text : List Char) : List Char := text.dropWhile isSpace

def hexDigit? (character : Char) : Option Nat :=
  let code := character.toNat
  if '0' ≤ character ∧ character ≤ '9' then some (code - '0'.toNat)
  else if 'a' ≤ character ∧ character ≤ 'f' then some (code - 'a'.toNat + 10)
  else if 'A' ≤ character ∧ character ≤ 'F' then some (code - 'A'.toNat + 10)
  else none

/-- The unit of a one-letter escape. -/
def escaped? : Char → Option Nat
  | '"' => some 0x22
  | '\\' => some 0x5C
  | '/' => some 0x2F
  | 'b' => some 0x08
  | 'f' => some 0x0C
  | 'n' => some 0x0A
  | 'r' => some 0x0D
  | 't' => some 0x09
  | _ => none

/-- The units of a string after its opening quote, and what follows its closing one. -/
def stringBody : List Char → Option (List Nat × List Char)
  | [] => none
  | '"' :: rest => some ([], rest)
  | '\\' :: 'u' :: a :: b :: c :: d :: rest => do
      let unit := (← hexDigit? a) * 0x1000 + (← hexDigit? b) * 0x100 + (← hexDigit? c) * 0x10 + (← hexDigit? d)
      let (units, after) ← stringBody rest
      return (unit :: units, after)
  | '\\' :: letter :: rest => do
      let unit ← escaped? letter
      let (units, after) ← stringBody rest
      return (unit :: units, after)
  | character :: rest => do
      guard (0x20 ≤ character.toNat)
      let (units, after) ← stringBody rest
      return (character.toNat :: units, after)

/-- A run of at least one digit. -/
def digits (text : List Char) : Option (List Char × List Char) :=
  match text.takeWhile Char.isDigit with
  | [] => none
  | run => some (run, text.dropWhile Char.isDigit)

/-- The whole part of a number: a zero alone, or digits that start with no zero. -/
def wholePart (text : List Char) : Option (List Char × List Char) := do
  let (run, rest) ← digits text
  if run.length ≠ 1 ∧ run.head? = some '0' then none else some (run, rest)

/-- The fraction of a number, possibly none. -/
def fraction : List Char → Option (List Char × List Char)
  | '.' :: rest => (digits rest).map fun (run, after) => ('.' :: run, after)
  | text => some ([], text)

/-- The exponent of a number, possibly none. -/
def exponent : List Char → Option (List Char × List Char)
  | mark :: sign :: rest =>
      if mark == 'e' || mark == 'E' then
        if sign == '+' || sign == '-' then
          (digits rest).map fun (run, after) => (mark :: sign :: run, after)
        else (digits (sign :: rest)).map fun (run, after) => (mark :: run, after)
      else some ([], mark :: sign :: rest)
  | [mark] => if mark == 'e' || mark == 'E' then none else some ([], [mark])
  | [] => some ([], [])

def unsignedNumber (text : List Char) : Option (List Char × List Char) := do
  let (whole, rest) ← wholePart text
  let (part, rest) ← fraction rest
  let (power, rest) ← exponent rest
  return (whole ++ part ++ power, rest)

def number : List Char → Option (List Char × List Char)
  | '-' :: rest => (unsignedNumber rest).map fun (literal, after) => ('-' :: literal, after)
  | text => unsignedNumber text

mutual

/-- One value and what follows it. Each call that the fuel pays for takes a character, or stands
between two that do. -/
def value : Nat → List Char → Option (Value × List Char)
  | 0, _ => none
  | fuel + 1, text =>
      match skipSpace text with
      | 'n' :: 'u' :: 'l' :: 'l' :: rest => some (.null, rest)
      | 't' :: 'r' :: 'u' :: 'e' :: rest => some (.bool true, rest)
      | 'f' :: 'a' :: 'l' :: 's' :: 'e' :: rest => some (.bool false, rest)
      | '"' :: rest => (stringBody rest).map fun (units, after) => (.string units, after)
      | '[' :: rest =>
          match skipSpace rest with
          | ']' :: after => some (.array [], after)
          | _ => (elements fuel rest).map fun (values, after) => (.array values, after)
      | '{' :: rest =>
          match skipSpace rest with
          | '}' :: after => some (.object [], after)
          | _ => (members fuel rest).map fun (entries, after) => (.object entries, after)
      | other => (number other).map fun (literal, after) => (.number literal, after)

/-- The elements of an array, from the first one to the closing bracket. -/
def elements : Nat → List Char → Option (List Value × List Char)
  | 0, _ => none
  | fuel + 1, text => do
      let (first, rest) ← value fuel text
      match skipSpace rest with
      | ',' :: more =>
          let (others, after) ← elements fuel more
          return (first :: others, after)
      | ']' :: after => return ([first], after)
      | _ => none

/-- The members of an object, from the first key to the closing brace. -/
def members : Nat → List Char → Option (List (List Nat × Value) × List Char)
  | 0, _ => none
  | fuel + 1, text => do
      let '"' :: rest := skipSpace text | none
      let (key, rest) ← stringBody rest
      let ':' :: rest := skipSpace rest | none
      let (content, rest) ← value fuel rest
      match skipSpace rest with
      | ',' :: more =>
          let (others, after) ← members fuel more
          return ((key, content) :: others, after)
      | '}' :: after => return ([(key, content)], after)
      | _ => none

end

/-- The tree of a text that is one JSON value with white space around it. -/
def parse? (text : String) : Option Value := do
  let characters := text.toList
  let (tree, rest) ← value (2 * characters.length + 2) characters
  guard (skipSpace rest).isEmpty
  return tree

end DialectBinder.Json
