import DialectBinder.Text.Blank
import DialectBinder.Text.Case

/-! Where the log of a host goes: a filter directive and an output format. -/

namespace DialectBinder

inductive LogFormat where
  | text
  /-- An indented tree of the nested activities. -/
  | tree
  /-- One JSON object per event. -/
  | json
deriving DecidableEq, Repr

def LogFormat.name : LogFormat → String
  | text => "Text"
  | tree => "Tree"
  | json => "Json"

/-- The format of a name, in any case and with white space around it; no name is `text`. -/
def LogFormat.parse? (name : String) : Option LogFormat :=
  match Text.fold (Text.trim name) with
  | "text" | "" => some .text
  | "tree" => some .tree
  | "json" => some .json
  | _ => none

structure LogSettings where
  filter : String
  format : LogFormat
deriving DecidableEq, Repr

/-- Settings from the filter directive, the directive that stands in for it and the name of the
format, each possibly unset. Without a directive there is no logging; an unknown format is `text`. -/
def LogSettings.ofVariables? (filter standIn format : Option String) : Option LogSettings :=
  (filter.or standIn).map fun directive => ⟨directive, (format.bind LogFormat.parse?).getD .text⟩

end DialectBinder
