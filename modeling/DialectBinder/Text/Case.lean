/-! Identifiers are compared ignoring the case of the ASCII letters; all other characters stand
for themselves. -/

namespace DialectBinder.Text

/-- The text with its ASCII capitals made small. -/
def fold (text : String) : String := String.ofList (text.toList.map Char.toLower)

@[simp] theorem toList_fold (text : String) : (fold text).toList = text.toList.map Char.toLower := by
  simp [fold]

def sameIgnoringCase (left right : String) : Bool := fold left == fold right

theorem sameIgnoringCase_iff (left right : String) :
    sameIgnoringCase left right = true ↔ fold left = fold right := by
  simp [sameIgnoringCase]

/-- Whether the text ends in `ending`, ignoring case. -/
def endsIgnoringCase (ending text : String) : Bool :=
  (fold ending).toList.isSuffixOf (fold text).toList

end DialectBinder.Text
