import Mathlib.Data.Nat.Digits.Defs
import DialectBinder.Diagnostic.Template

/-! Message templates by their segments. A template of plain texts and of numbers in braces is
filled segment by segment: texts are kept, a number stands for the argument at that place, and a
number that is too large is kept with its braces. What an argument holds is not looked at. -/

namespace DialectBinder.Template

inductive Segment where
  /-- A text without an opening brace. -/
  | text (content : String) (plain : '{' ∉ content.toList)
  /-- A number in braces, by its decimal digits, which may start with zeros. -/
  | placeholder (digits : List (Fin 10)) (written : digits ≠ [])

/-- The decimal digits as they are written. -/
def numeral (digits : List (Fin 10)) : List Char := digits.map fun digit => digit.val.digitChar

/-- The number that decimal digits stand for, the first one being the highest. -/
def number (digits : List (Fin 10)) : Nat := Nat.ofDigits 10 (digits.reverse.map Fin.val)

namespace Segment

/-- The segment as it stands in a template. -/
def source : Segment → String
  | text content _ => content
  | placeholder digits _ => String.ofList ('{' :: numeral digits ++ ['}'])

/-- The segment with these arguments. A placeholder that names none of them is kept as it stands. -/
def filled (arguments : List String) : Segment → String
  | text content _ => content
  | placeholder digits written =>
    (arguments[number digits]?).getD (source (placeholder digits written))

end Segment

section Numerals

theorem digitChar_spec (digit : Fin 10) :
    digit.val.digitChar.isDigit = true ∧ digit.val.digitChar.toNat - '0'.toNat = digit.val := by
  revert digit
  decide

theorem isDigit_of_mem_numeral {digits : List (Fin 10)} {character : Char}
    (member : character ∈ numeral digits) :
    character.isDigit = true := by
  obtain ⟨digit, _, rfl⟩ := List.mem_map.mp member
  exact (digitChar_spec digit).1

theorem not_mem_numeral {digits : List (Fin 10)} {character : Char}
    (other : character.isDigit = false) :
    character ∉ numeral digits := by
  intro member
  rw [isDigit_of_mem_numeral member] at other
  cases other

theorem foldl_numeral (digits : List (Fin 10)) :
    (numeral digits).foldl (fun total digit => total * 10 + (digit.toNat - '0'.toNat)) 0 =
    number digits := by
  rw [numeral, List.foldl_map, number, Nat.ofDigits_eq_foldr, List.foldr_map, List.foldr_reverse]
  congr 1
  funext total digit
  rw [(digitChar_spec digit).2, Nat.cast_id]
  omega

theorem index?_numeral {digits : List (Fin 10)} (written : digits ≠ []) :
    index? (numeral digits) =
      if number digits < UInt64.size then some (number digits) else none := by
  have unsigned (rest : List Char) (signed : numeral digits = '+' :: rest) : False :=
    not_mem_numeral (by decide) (signed ▸ List.mem_cons_self)
  have nonempty : (numeral digits).isEmpty = false := by simpa [numeral] using written
  have decimal : (numeral digits).all Char.isDigit = true :=
    List.all_eq_true.mpr fun _ => isDigit_of_mem_numeral
  rw [← foldl_numeral]
  -- `unsigned` rules out the branch of the sign.
  simp [index?, nonempty, decimal]

end Numerals

variable {arguments : List String}

/-- A numeral asks for the argument at its number, among those that a number of 64 bits can ask
for. -/
theorem placeholder?_numeral (arguments : List String) {digits : List (Fin 10)}
    (written : digits ≠ []) (rest : List Char) :
    placeholder? arguments (numeral digits ++ '}' :: rest) =
      (arguments.take UInt64.size)[number digits]?.map fun argument => (argument, rest) := by
  have inner : ∀ character ∈ numeral digits, (character != '}') = true := by
    intro character member
    have other : character ≠ '}' := fun same => not_mem_numeral (by decide) (same ▸ member)
    simpa using other
  have before : (numeral digits ++ '}' :: rest).takeWhile (· != '}') = numeral digits := by
    simp [List.takeWhile_append_of_pos inner]
  have after : (numeral digits ++ '}' :: rest).dropWhile (· != '}') = '}' :: rest := by
    simp [List.dropWhile_append_of_pos inner]
  simp only [placeholder?, before, after, index?_numeral written, List.getElem?_take]
  by_cases read : number digits < UInt64.size
  · simp [read, Option.map_eq_bind]
  · simp [read]

theorem fill_append_of_plain {text : List Char} (plain : '{' ∉ text) (rest : List Char) :
    fill arguments (text ++ rest) = text ++ fill arguments rest := by
  induction text with
  | nil => rfl
  | cons character text ih =>
    have different : character ≠ '{' := fun same => plain (same ▸ List.mem_cons_self)
    rw [List.cons_append, fill, if_neg different, ih fun member =>
      plain (List.mem_cons_of_mem _ member), List.cons_append]

theorem fill_of_placeholder? {text rest : List Char} {argument : String}
    (found : placeholder? arguments text = some (argument, rest)) :
    fill arguments ('{' :: text) = argument.toList ++ fill arguments rest := by
  rw [fill, if_pos rfl]
  split
  · rename_i same
    rw [found] at same
    cases same
    rfl
  · rename_i missing
    rw [found] at missing
    cases missing

theorem fill_of_no_placeholder {text : List Char} (missing : placeholder? arguments text = none) :
    fill arguments ('{' :: text) = '{' :: fill arguments text := by
  rw [fill, if_pos rfl]
  split
  · rename_i found
    rw [missing] at found
    cases found
  · rfl

/-- One segment is filled whatever comes after it. -/
theorem fill_source_append (segment : Segment) (rest : List Char) :
    fill arguments (segment.source.toList ++ rest) =
      (segment.filled (arguments.take UInt64.size)).toList ++ fill arguments rest := by
  cases segment with
  | text content plain => exact fill_append_of_plain plain rest
  | placeholder digits written =>
    have asked := placeholder?_numeral arguments written rest
    simp only [Segment.source, Segment.filled, String.toList_ofList, List.cons_append,
      List.append_assoc, List.nil_append]
    cases found : (arguments.take UInt64.size)[number digits]? with
    | some argument =>
      rw [found, Option.map_some] at asked
      rw [fill_of_placeholder? asked, Option.getD_some]
    | none =>
      rw [found, Option.map_none] at asked
      -- The brace is kept, and what follows it is plain text.
      have plain : '{' ∉ numeral digits ++ ['}'] := by simp [not_mem_numeral]
      have kept : fill arguments ((numeral digits ++ ['}']) ++ rest) =
          (numeral digits ++ ['}']) ++ fill arguments rest :=
        fill_append_of_plain plain rest
      rw [fill_of_no_placeholder asked, Option.getD_none, String.toList_ofList]
      simpa using kept

theorem fill_sources (segments : List Segment) :
    fill arguments (segments.flatMap fun segment => segment.source.toList) =
      segments.flatMap fun segment => (segment.filled (arguments.take UInt64.size)).toList := by
  induction segments with
  | nil => rw [List.flatMap_nil, List.flatMap_nil, fill]
  | cons segment rest ih => rw [List.flatMap_cons, List.flatMap_cons, fill_source_append, ih]

theorem format_sources (segments : List Segment) (arguments : List String) :
    format (String.join (segments.map Segment.source)) arguments =
      String.join (segments.map (Segment.filled (arguments.take UInt64.size))) := by
  apply String.toList_inj.mp
  rw [format, String.toList_ofList, String.toList_join, String.toList_join, List.flatMap_map,
    List.flatMap_map]
  exact fill_sources segments

/-- A template is filled segment by segment. Texts without an opening brace are kept. A number in
braces stands for the argument at that place, just as the argument is, braces included; a number
with no such argument is kept as written. A number of 64 bits can ask for any argument of a list
that a machine of 64 bits can hold; of a longer list, it can ask for those arguments only. -/
theorem format_by_segments (segments : List Segment) (arguments : List String) :
    (arguments.length ≤ UInt64.size → format (String.join (segments.map Segment.source)) arguments =
      String.join (segments.map (Segment.filled arguments))) ∧
    format (String.join (segments.map Segment.source)) arguments =
      String.join (segments.map (Segment.filled (arguments.take UInt64.size))) := by
  refine ⟨?_, format_sources segments arguments⟩
  intro addressable
  rw [format_sources, List.take_of_length_le addressable]

/-- A name in quotes, a closing brace that belongs to nothing, a number written with a zero, and one
that is too large. -/
def quotedNames : List Segment :=
  [.text "'" (by decide), .placeholder [0] (by decide), .text "' \x7d " (by decide),
    .placeholder [0, 1] (by decide), .placeholder [7] (by decide)]

/-- An argument that looks like a placeholder is not filled again. -/
theorem quotedNames_filled :
    ["\x7b1\x7d", "B"].length ≤ UInt64.size ∧
      format (String.join (quotedNames.map Segment.source)) ["\x7b1\x7d", "B"] =
        "'\x7b1\x7d' \x7d B\x7b7\x7d" := by
  have addressable : ["\x7b1\x7d", "B"].length ≤ UInt64.size := by decide
  refine ⟨addressable, ?_⟩
  rw [(format_by_segments quotedNames _).1 addressable]
  decide +kernel

end DialectBinder.Template
