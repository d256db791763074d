/-
# Sets of characters

A set of characters is kept as the expression that describes it, and
membership is decided by evaluating the expression at a character.  That
keeps sets small enough to be compared, which the matcher does at every
step, and leaves the tables of the standard unevaluated until a character
asks for them.

`folded` closes a set under change of case: a character is in it when some
character that differs from it in case only is in the set.
-/
import HeaderCheck.Text.Blank
import HeaderCheck.Unicode.Property
import HeaderCheck.Unicode.Casing

namespace HeaderCheck.Regex

open HeaderCheck.Unicode

/-- An expression for a set of characters. -/
inductive CharSet where
  | none
  | range (first last : Nat)
  | word
  | digit
  | blank
  | property (p : Property)
  | union (s t : CharSet)
  | inter (s t : CharSet)
  | compl (s : CharSet)
  | folded (s : CharSet)
  | foldedAscii (s : CharSet)
deriving DecidableEq, Repr

namespace CharSet

/-- The ASCII letter that differs from `c` in case. -/
def otherAsciiCase (c : Char) : Char :=
  if c.isUpper then c.toLower else c.toUpper

/-- Is a character in the set? -/
def mem : CharSet → Char → Bool
  | none, _ => false
  | range a b, c => a ≤ c.toNat && c.toNat ≤ b
  | word, c => isWord c
  | digit, c => isDigit c
  | blank, c => isBlank c
  | property p, c => p.holds c
  | union s t, c => s.mem c || t.mem c
  | inter s t, c => s.mem c && t.mem c
  | compl s, c => !s.mem c
  | folded s, c => (caseOrbit c).any s.mem
  | foldedAscii s, c => s.mem c || s.mem (otherAsciiCase c)

/-- The set of a single character. -/
def char (c : Char) : CharSet :=
  range c.toNat c.toNat

/-- All characters. -/
def all : CharSet :=
  compl none

/-- What is in the first set and not in the second. -/
def diff (s t : CharSet) : CharSet :=
  inter s (compl t)

/-- What is in exactly one of two sets. -/
def symmDiff (s t : CharSet) : CharSet :=
  union (diff s t) (diff t s)

/-- The union of ranges given by their ends. -/
def ofRanges : List (Nat × Nat) → CharSet
  | [] => none
  | [(a, b)] => range a b
  | (a, b) :: t => union (range a b) (ofRanges t)

/-- The ASCII decimal digits. -/
def asciiDigit : CharSet := ofRanges [(48, 57)]

/-- The ASCII blanks and line breaks. -/
def asciiBlank : CharSet := ofRanges [(9, 13), (32, 32)]

/-- The ASCII letters, digits and the underscore. -/
def asciiWord : CharSet := ofRanges [(48, 57), (65, 90), (95, 95), (97, 122)]

/-- The set between `[:` and `:]`. -/
def bracketName? : String → Option CharSet
  | "alnum" => some (ofRanges [(48, 57), (65, 90), (97, 122)])
  | "alpha" => some (ofRanges [(65, 90), (97, 122)])
  | "ascii" => some (ofRanges [(0, 127)])
  | "blank" => some (ofRanges [(9, 9), (32, 32)])
  | "cntrl" => some (ofRanges [(0, 31), (127, 127)])
  | "digit" => some asciiDigit
  | "graph" => some (ofRanges [(33, 126)])
  | "lower" => some (ofRanges [(97, 122)])
  | "print" => some (ofRanges [(32, 126)])
  | "punct" => some (ofRanges [(33, 47), (58, 64), (91, 96), (123, 126)])
  | "space" => some asciiBlank
  | "upper" => some (ofRanges [(65, 90)])
  | "word" => some asciiWord
  | "xdigit" => some (ofRanges [(48, 57), (65, 70), (97, 102)])
  | _ => Option.none

/-- Does the set hold ASCII characters only, judged by the characters
whose UTF-8 form is not one byte but whose number is? -/
def isAscii (s : CharSet) : Bool :=
  (List.range 128).all fun i => !s.mem (Char.ofNat (128 + i))

end CharSet

end HeaderCheck.Regex
