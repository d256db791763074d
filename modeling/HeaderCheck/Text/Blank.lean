/-
# Blank characters

`isBlank` is the Unicode property `White_Space`: the ASCII blanks and line
breaks together with the next-line character, the no-break space, the
spaces of the general punctuation block, its two separators and the
ideographic space.  The zero-width space and the byte-order mark are not in
it; the gap before a header treats the mark as blank too, which is the
business of `isGap`.
-/
import HeaderCheck.Text.Basic

namespace HeaderCheck

/-- The byte-order mark. -/
def byteOrderMark : Char := '\uFEFF'

/-- The Unicode property `White_Space`. -/
def isBlank (c : Char) : Bool :=
  let n := c.toNat
  (9 ≤ n && n ≤ 13) || n = 32 || n = 0x85 || n = 0xA0 || n = 0x1680 ||
    (0x2000 ≤ n && n ≤ 0x200A) || n = 0x2028 || n = 0x2029 || n = 0x202F ||
    n = 0x205F || n = 0x3000

/-- What may stand between the place of a header and the header: blanks
and byte-order marks. -/
def isGap (c : Char) : Bool :=
  isBlank c || c = byteOrderMark

/-- Is the text empty up to blanks? -/
def Text.isBlank (t : Text) : Bool :=
  t.all HeaderCheck.isBlank

end HeaderCheck
