/-
# The verdict on a header

A comment in the place of the header is valid when the pattern accepts its
inner text.  A comment that the pattern rejects is mismatched, and the
verdict records whether only a gap separates it from the place of the
header: only then may a fix overwrite it.
-/
import HeaderCheck.Comment
import HeaderCheck.Pattern

namespace HeaderCheck

/-- The verdict on the comment found for a header. -/
inductive Verdict where
  | valid (comment : Comment)
  | missing
  | mismatched (comment : Comment) (afterGap : Bool)
deriving DecidableEq, Repr

/-- Is the stretch of text between two offsets a gap?  A stretch that runs
backwards, leaves the text or cuts a character is none. -/
def Text.isGapBetween (t : Text) (start stop : Nat) : Bool :=
  match t.slice? start stop with
  | some gap => gap.all isGap
  | none => false

/-- The verdict on a comment, for a header that may begin at `offset`. -/
def Verdict.of? (p : Pattern) (t : Text) (offset : Nat) :
    Option Comment → Option Verdict
  | none => some .missing
  | some c =>
      (c.inner? t).map fun inner =>
        if p.accepts inner then .valid c
        else .mismatched c (t.isGapBetween offset c.start)

end HeaderCheck
