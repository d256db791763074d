/-
# Characters, line breaks and places of a document

A line of a document ends at a line feed, a carriage return or both, at the
next-line character, or at one of the two separators of Unicode.  In the
value of a scalar the first four read as a line feed, and the separators as
themselves.

A run of blanks and line breaks inside a scalar is *folded*: without a line
break it stands for itself, a single line break for a space, and several
for all but the first of them.
-/
import HeaderCheck.Yaml.Fault

namespace HeaderCheck.Yaml

/-- A space or a tab. -/
def isBlank (c : Char) : Bool :=
  c = ' ' || c = '\t'

/-- The line and paragraph separators. -/
def isSeparator (c : Char) : Bool :=
  c = '\u2028' || c = '\u2029'

/-- The characters at which a line ends. -/
def isBreak (c : Char) : Bool :=
  c = '\n' || c = '\r' || c = '\u0085' || isSeparator c

/-- A blank or a line break. -/
def isGap (c : Char) : Bool :=
  isBlank c || isBreak c

/-- The characters of names: letters and digits of ASCII, the underscore
and the hyphen. -/
def isNameChar (c : Char) : Bool :=
  c.isAlphanum || c = '_' || c = '-'

/-- The characters that a document may hold. -/
def isAllowed (c : Char) : Bool :=
  let n := c.toNat
  n = 9 || n = 10 || n = 13 || (32 ≤ n && n ≤ 126) || n = 0x85 ||
    (0xA0 ≤ n && n ≤ 0xD7FF) || (0xE000 ≤ n && n ≤ 0xFFFD) || 0x10000 ≤ n

/-- Does a blank, a line break or the end come next? -/
def startsGap : Text → Bool
  | [] => true
  | c :: _ => isGap c

/-- Does a line break or the end come next? -/
def startsBreak : Text → Bool
  | [] => true
  | c :: _ => isBreak c

/-- Does a marker of the start or the end of a document come next? -/
def startsMarker : Text → Bool
  | '-' :: '-' :: '-' :: t => startsGap t
  | '.' :: '.' :: '.' :: t => startsGap t
  | _ => false

/-- The line breaks of a run, as they read in a value. -/
def breaks : Text → Text
  | [] => []
  | '\r' :: '\n' :: t => '\n' :: breaks t
  | c :: t =>
      if isSeparator c then c :: breaks t
      else if isBreak c then '\n' :: breaks t
      else breaks t

/-- A run of blanks and line breaks, folded. -/
def foldGap (run : Text) : Text :=
  match breaks run with
  | [] => run
  | ['\n'] => [' ']
  | '\n' :: more => more
  | all => all

/-- One line break at the start, as it reads in a value, and what
follows. -/
def splitBreak? : Text → Option (Char × Text)
  | [] => none
  | '\r' :: '\n' :: t => some ('\n', t)
  | c :: t =>
      if isSeparator c then some (c, t)
      else if isBreak c then some ('\n', t)
      else none

/-! ## Places -/

/-- A place in a document: its line, its column, and the number of
characters before it, all counted from zero. -/
structure Mark where
  line : Nat
  column : Nat
  index : Nat
deriving DecidableEq, Repr

namespace Mark

/-- The place before the first character. -/
def start : Mark := ⟨0, 0, 0⟩

/-- The place behind one line break or one other character. -/
def step (m : Mark) (c : Char) : Mark :=
  if isBreak c then ⟨m.line + 1, 0, m.index + 1⟩ else ⟨m.line, m.column + 1, m.index + 1⟩

/-- The place behind a text. -/
def after (m : Mark) : Text → Mark
  | [] => m
  | '\r' :: '\n' :: t => after ⟨m.line + 1, 0, m.index + 2⟩ t
  | c :: t => (m.step c).after t

end Mark

end HeaderCheck.Yaml
