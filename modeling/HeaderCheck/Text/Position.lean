/-
# Lines and columns

A report names a place by line and column, both counted from one, and the
column in characters: what an editor shows.  Every byte offset has a
position: one inside a character has that of the character, one past the
end that of the end.
-/
import HeaderCheck.Text.Basic

namespace HeaderCheck

/-- A place in a text, as an editor shows it. -/
structure Position where
  line : Nat
  column : Nat
deriving DecidableEq, Repr

/-- The position of a byte offset. -/
def Text.position (t : Text) (offset : Nat) : Position :=
  let before := t.fit offset
  { line := before.count '\n' + 1
    column := (before.reverse.takeWhile (· ≠ '\n')).length + 1 }

end HeaderCheck
