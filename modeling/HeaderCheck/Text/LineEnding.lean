/-
# Line endings

A text is written in one of two conventions, and its first line break
tells which: a line feed that follows a carriage return, or a bare one.  A
text without a line feed counts as bare.
-/
import HeaderCheck.Text.Basic

namespace HeaderCheck

/-- The two conventions for ending a line. -/
inductive LineEnding where
  | lf
  | crlf
deriving DecidableEq, Repr

namespace LineEnding

/-- The characters that end a line. -/
def mark : LineEnding → Text
  | lf => ['\n']
  | crlf => ['\r', '\n']

/-- The convention of a text, read off its first line break. -/
def detect : Text → LineEnding
  | [] => lf
  | '\n' :: _ => lf
  | '\r' :: '\n' :: _ => crlf
  | _ :: t => detect t

end LineEnding

/-- The characters at which a line comment ends. -/
def isLineBreak (c : Char) : Bool :=
  c = '\r' || c = '\n'

namespace Text

/-- The lines of a text, each without its line ending. -/
def lines (t : Text) : List Text :=
  (t.splitOn '\n').map fun l => (l.before? ['\r']).getD l

/-- The text through its first line feed, and what follows. -/
def splitLine : Text → Text × Text
  | [] => ([], [])
  | c :: t =>
      if c = '\n' then ([c], t)
      else ((c :: (splitLine t).1), (splitLine t).2)

theorem splitLine_append (t : Text) : (splitLine t).1 ++ (splitLine t).2 = t := by
  induction t with
  | nil => rfl
  | cons c t ih =>
      by_cases h : c = '\n'
      · simp [splitLine, h]
      · simp [splitLine, h, ih]

/-- One line break at the start of a text, in either convention. -/
def afterBreak? : Text → Option Text
  | '\r' :: '\n' :: t => some t
  | '\n' :: t => some t
  | _ => none

/-- How many line breaks the text starts with, counted no further than
`most`. -/
def leadingBreaks : (most : Nat) → Text → Nat
  | 0, _ => 0
  | n + 1, t =>
      match t.afterBreak? with
      | some r => leadingBreaks n r + 1
      | none => 0

end Text

end HeaderCheck
