/-
# Patterns as regular expressions

A pattern is written as a regular expression and accepts a text when the
expression matches some part of it.  Nothing is anchored unless the
expression says so.
-/
import HeaderCheck.Pattern
import HeaderCheck.Regex.Resolve

namespace HeaderCheck

/-- The pattern written as a regular expression. -/
def Pattern.compile (source : Text) : Except Regex.Fault Pattern := do
  let expr ← Regex.Expr.ofPattern source
  return { source, accepts := expr.search }

theorem Pattern.source_of_compile {s : Text} {p : Pattern}
    (h : Pattern.compile s = .ok p) : p.source = s := by
  unfold compile at h
  cases he : Regex.Expr.ofPattern s with
  | error f => simp [he, bind, Except.bind] at h
  | ok e =>
      simp only [he, bind, Except.bind, pure, Except.pure, Except.ok.injEq] at h
      exact h ▸ rfl

end HeaderCheck
