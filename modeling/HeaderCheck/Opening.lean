/-
# The opening of a file

Two things stay in front of a header: a byte-order mark, and after it a
line that names an interpreter.  `headerStart` is the byte offset behind
both, the place where a header may begin.  An interpreter line without a
line feed takes the rest of the text, and then the offset is in the middle
of a line: that is the one case in which an inserted header has to start a
line of its own (`hasOpenLine`).
-/
import HeaderCheck.Text.Blank
import HeaderCheck.Text.LineEnding

namespace HeaderCheck

namespace Text

/-- The byte-order mark at the start, if there is one, and the rest. -/
def splitMark : Text → Text × Text
  | [] => ([], [])
  | c :: t => if c = byteOrderMark then ([c], t) else ([], c :: t)

/-- The interpreter line at the start, if there is one, and the rest. -/
def splitInterpreter : Text → Text × Text
  | '#' :: '!' :: t => ('#' :: '!' :: (splitLine t).1, (splitLine t).2)
  | t => ([], t)

/-- What stays in front of a header. -/
def opening (t : Text) : Text :=
  t.splitMark.1 ++ t.splitMark.2.splitInterpreter.1

/-- What follows the opening. -/
def afterOpening (t : Text) : Text :=
  t.splitMark.2.splitInterpreter.2

/-- The byte offset at which a header may begin. -/
def headerStart (t : Text) : Nat :=
  t.opening.width

/-- Does the text end in the middle of a line?  A byte-order mark alone is
no beginning of one. -/
def hasOpenLine (t : Text) : Bool :=
  match t.splitMark.2.getLast? with
  | none => false
  | some c => c ≠ '\n'

theorem splitMark_append (t : Text) : t.splitMark.1 ++ t.splitMark.2 = t := by
  cases t with
  | nil => rfl
  | cons c t => by_cases h : c = byteOrderMark <;> simp [splitMark, h]

theorem splitInterpreter_append (t : Text) :
    t.splitInterpreter.1 ++ t.splitInterpreter.2 = t := by
  unfold splitInterpreter
  split <;> simp [splitLine_append]

theorem opening_append (t : Text) : t.opening ++ t.afterOpening = t := by
  rw [opening, afterOpening, List.append_assoc, splitInterpreter_append,
    splitMark_append]

end Text

end HeaderCheck
