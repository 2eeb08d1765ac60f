/-! Message templates. A placeholder is a number in braces and stands for the argument at that
place; whatever names no argument is kept as written, and arguments are never scanned again. -/

namespace DialectBinder.Template

/-- The number that digits denote, after an optional plus sign, if it fits 64 bits. -/
def index? (text : List Char) : Option Nat :=
  let digits := match text with
    | '+' :: rest => rest
    | other => other
  if digits.isEmpty || !digits.all Char.isDigit then none
  else
    let number := digits.foldl (fun total digit => total * 10 + (digit.toNat - '0'.toNat)) 0
    if number < UInt64.size then some number else none

/-- The argument that the text after an opening brace asks for, and what follows its brace. -/
def placeholder? (arguments : List String) (text : List Char) : Option (String × List Char) :=
  match text.dropWhile (· != '}') with
  | [] => none
  | _ :: rest => do
      let index ← index? (text.takeWhile (· != '}'))
      let argument ← arguments[index]?
      return (argument, rest)

theorem placeholder?_length {arguments : List String} {text rest : List Char} {argument : String}
    (found : placeholder? arguments text = some (argument, rest)) : rest.length < text.length := by
  have suffix := (List.dropWhile_suffix (l := text) (· != '}')).length_le
  unfold placeholder? at found
  split at found
  · cases found
  · rename_i closing remaining same
    simp only [Option.bind_eq_bind, Option.pure_def, Option.bind_eq_some_iff, Option.some.injEq,
      Prod.mk.injEq] at found
    obtain ⟨_, _, _, _, _, kept⟩ := found
    rw [same, kept] at suffix
    simp only [List.length_cons] at suffix
    omega

def fill (arguments : List String) : List Char → List Char
  | [] => []
  | character :: text =>
      if character = '{' then
        match found : placeholder? arguments text with
        | some (argument, rest) =>
            have := placeholder?_length found
            argument.toList ++ fill arguments rest
        | none => character :: fill arguments text
      else character :: fill arguments text
termination_by text => text.length

def format (template : String) (arguments : List String) : String :=
  String.ofList (fill arguments template.toList)

end DialectBinder.Template
