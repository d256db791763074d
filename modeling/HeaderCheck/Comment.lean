/-
# Comments

Two forms of comment can be a header: a line comment, which ends before the
next line break, and a block comment, which ends after the next closing
mark or, where there is none, with the text.  Nothing else of the language
of a file is read: the first comment is found by stepping over the gap at
an offset and looking at what comes next.

The two characters of an opening mark are not part of the search for the
closing one, so `/*/` is an open block comment.
-/
import HeaderCheck.Text.Blank
import HeaderCheck.Text.LineEnding

namespace HeaderCheck

/-- The forms of comment. -/
inductive CommentKind where
  | line
  | block
deriving DecidableEq, Repr

/-- A comment in a text: its form and its half-open byte range. -/
structure Comment where
  kind : CommentKind
  start : Nat
  stop : Nat
deriving DecidableEq, Repr

/-- The mark that closes a block comment. -/
def closingMark : Text := ['*', '/']

namespace Text

/-- The text before the first closing mark and the text after it. -/
def splitClosing? : Text → Option (Text × Text)
  | [] => none
  | '*' :: '/' :: t => some ([], t)
  | c :: t => (splitClosing? t).map fun (body, rest) => (c :: body, rest)

/-- The comment that a text opens with, and how many bytes it takes. -/
def opensWith? : Text → Option (CommentKind × Nat)
  | '/' :: '/' :: t => some (.line, 2 + width (t.takeWhile (!isLineBreak ·)))
  | '/' :: '*' :: t =>
      match splitClosing? t with
      | some (body, _) => some (.block, 4 + width body)
      | none => some (.block, 2 + width t)
  | _ => none

end Text

namespace Comment

/-- The first comment at or after an offset, if only a gap precedes it.
The outer `none` says that the offset is no place of the text. -/
def locate? (t : Text) (offset : Nat) : Option (Option Comment) :=
  (t.from? offset).map fun rest =>
    let start := offset + Text.width (rest.takeWhile isGap)
    (Text.opensWith? (rest.dropWhile isGap)).map fun (kind, size) =>
      { kind, start, stop := start + size }

/-- What stands between the marks of a comment.  A block comment that was
never closed ends where its text does. -/
def inner? (c : Comment) (t : Text) : Option Text :=
  (t.slice? (c.start + 2) c.stop).map fun body =>
    match c.kind with
    | .line => body
    | .block => (body.before? closingMark).getD body

end Comment

end HeaderCheck
