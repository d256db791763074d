/-
# Header patterns

What a header has to satisfy is a predicate on the text between the marks
of its comment.  The rule of the checker needs nothing else of it, so a
pattern is the predicate together with the source it was written as.
-/
import HeaderCheck.Text.Basic

namespace HeaderCheck

/-- A predicate on texts and the source it is written as. -/
structure Pattern where
  source : Text
  accepts : Text → Bool

end HeaderCheck
