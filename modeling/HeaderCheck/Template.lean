/-
# Rendering a template

The header that a fix writes is a block comment in the usual star-bordered
layout: one line for each line of the template, in the line ending of the
file and whatever the template's own line endings are.
-/
import HeaderCheck.Text.LineEnding

namespace HeaderCheck

/-- The lines of the block comment for a template. -/
def blockLines (template : Text) : List Text :=
  "/*".toList :: template.lines.map (" * ".toList ++ ·) ++ [" */".toList]

/-- The block comment for a template, followed by `trailing` line endings. -/
def renderBlock (template : Text) (ending : LineEnding) (trailing : Nat) : Text :=
  ending.mark.intercalate (blockLines template) ++ ending.mark.times trailing

end HeaderCheck
