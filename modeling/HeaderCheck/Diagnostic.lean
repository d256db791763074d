/-
# Diagnostics and fixes

A check finds at most one thing wrong with a text: the header is missing,
or the blank line behind it.  A diagnostic marks a place — its range is
empty, and the fix, where there is one, replaces a range of its own.
-/
import HeaderCheck.Text.Basic

namespace HeaderCheck

/-- An edit: a byte range and the text that takes its place. -/
structure Fix where
  start : Nat
  stop : Nat
  replacement : Text
deriving DecidableEq, Repr

namespace Fix

/-- The edit that inserts a text at an offset. -/
def insertion (offset : Nat) (text : Text) : Fix :=
  { start := offset, stop := offset, replacement := text }

/-- The edited text.  There is none if an end of the range is no place of
the text. -/
def edit? (f : Fix) (t : Text) : Option Text := do
  let before ← t.upTo? f.start
  let after ← t.from? f.stop
  return before ++ f.replacement ++ after

end Fix

/-- What a check can find wrong. -/
inductive Finding where
  | missingHeader
  | missingNewLine
deriving DecidableEq, Repr

namespace Finding

/-- The wording of a finding. -/
def message : Finding → String
  | missingHeader => "missing file header"
  | missingNewLine => "missing new line following the file header"

end Finding

/-- A finding, the byte range it is reported at, and its fix. -/
structure Diagnostic where
  finding : Finding
  start : Nat
  stop : Nat
  fix : Option Fix
deriving DecidableEq, Repr

/-- A finding reported at a single offset. -/
def Diagnostic.at (finding : Finding) (offset : Nat) (fix : Option Fix) : Diagnostic :=
  { finding, start := offset, stop := offset, fix }

end HeaderCheck
