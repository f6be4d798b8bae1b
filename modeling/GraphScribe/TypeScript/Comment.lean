import GraphScribe.Text.Blank

/-!
# Documentation comments

`docComment` turns a description and the reason of a deprecation into one block comment: in a
single line if there is one line to say, else with each line behind an asterisk.
-/

namespace GraphScribe.TypeScript

/-- The lines of a comment: those of the description, then the reason unless it is empty. -/
def commentLines (text deprecation : Option String) : List String :=
  let described := Text.lines (text.getD "")
  match deprecation with
  | none => described
  | some reason => if reason.isEmpty then described else described ++ ["@deprecated " ++ reason]

/-- The comment made of some lines, nothing for none. -/
def commentOfLines : List String → String
  | [] => ""
  | [line] => "/** " ++ line ++ " */"
  | ls => "/**\n" ++ "\n".intercalate (ls.map fun l => Text.trimRight (" * " ++ l)) ++ "\n */"

/-- The comment for a description and the reason of a deprecation. -/
def docComment (text deprecation : Option String) : String :=
  commentOfLines (commentLines text deprecation)

end GraphScribe.TypeScript
