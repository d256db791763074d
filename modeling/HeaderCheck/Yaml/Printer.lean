/-
# Writing a document

A configuration is written as a block mapping of strings, booleans and
lists of strings.  A string is written plain where that reads back as the
same string, else in single quotes, and in double quotes where characters
have to be escaped; one that holds a line feed is written as a literal
block, unless a blank in front of a line break or at the end would be lost
there.

In a literal block every line that is not empty is indented by two
characters.  Its first line says so with a digit where the string itself
starts with a space or a line break, and says what becomes of the line
breaks at the end: a minus sign where there is none, a plus sign where
there are several or nothing else.
-/
import HeaderCheck.Yaml.Plain

namespace HeaderCheck.Yaml

/-! ## What a string allows -/

/-- The characters that are written as they are. -/
def isPrintable (c : Char) : Bool :=
  let n := c.toNat
  c = '\n' || (0x20 ≤ n && n ≤ 0x7E) || (0xA0 ≤ n && n ≤ 0xD7FF) ||
    (0xE000 ≤ n && n ≤ 0xFFFD && n ≠ 0xFEFF)

/-- The marks that nothing plain starts with. -/
def leadingMarks : Text := "#,[]\x7b\x7d&*!|>'\"%@\x60".toList

/-- Does the text start with a mark, a marker of a document, or a mark that
a blank follows? -/
def startsIndicator : Text → Bool
  | '-' :: '-' :: '-' :: _ => true
  | '.' :: '.' :: '.' :: _ => true
  | [] => false
  | c :: t => leadingMarks.contains c || ((c = '?' || c = ':' || c = '-') && startsGap t)

/-- Is there a colon before a blank, or a hash behind one? -/
def holdsIndicator (behindGap : Bool) : Text → Bool
  | [] => false
  | c :: t =>
      (c = ':' && startsGap t) || (c = '#' && behindGap) || holdsIndicator (isGap c) t

/-- Does a character of one kind come directly before one of another? -/
def pairs (first second : Char → Bool) : Text → Bool
  | c :: d :: t => (first c && second d) || pairs first second (d :: t)
  | _ => false

/-- Is the character a space? -/
def isSpace (c : Char) : Bool :=
  c = ' '

/-- May the text be written plain? -/
def allowsPlain (t : Text) : Bool :=
  t.all isPrintable && !t.any isBreak && !t.head?.any isSpace && !t.getLast?.any isSpace &&
    !startsIndicator t && !holdsIndicator true t

/-- May the text be written in single quotes? -/
def allowsSingle (t : Text) : Bool :=
  t.all isPrintable && !pairs isSpace isBreak t && !pairs isBreak isSpace t

/-- May the text be written as a literal block? -/
def allowsLiteral (t : Text) : Bool :=
  t.all isPrintable && !pairs isSpace isBreak t && !t.getLast?.any isSpace

/-- The style in which a string is written. -/
def styleOf (t : Text) : ScalarStyle :=
  if t.contains '\n' then (if allowsLiteral t then .literal else .double)
  else if !isAmbiguous t && allowsPlain t then .plain
  else if allowsSingle t then .single
  else .double

/-! ## Writing a string -/

/-- The two spaces in front of a continued line. -/
def margin (lineStart : Bool) : Text :=
  if lineStart then [' ', ' '] else []

/-- The text between single quotes. -/
def singleBody (lineStart : Bool) : Text → Text
  | [] => margin lineStart
  | c :: t =>
      if isBreak c then c :: singleBody true t
      else margin lineStart ++ (if c = '\'' then ['\'', '\''] else [c]) ++ singleBody false t

/-- A number as hexadecimal digits. -/
def hexDigits : (count n : Nat) → Text
  | 0, _ => []
  | k + 1, n => hexDigits k (n / 16) ++ [(Nat.digitChar (n % 16)).toUpper]

/-- The character behind the backslash of a short escape. -/
def shortEscape? : Char → Option Char
  | '\x00' => some '0'
  | '\x07' => some 'a'
  | '\x08' => some 'b'
  | '\t' => some 't'
  | '\n' => some 'n'
  | '\x0b' => some 'v'
  | '\x0c' => some 'f'
  | '\r' => some 'r'
  | '\x1b' => some 'e'
  | '"' => some '"'
  | '\\' => some '\\'
  | '\u0085' => some 'N'
  | '\u2028' => some 'L'
  | '\u2029' => some 'P'
  | _ => none

/-- The escape of a character. -/
def escaped (c : Char) : Text :=
  match shortEscape? c with
  | some d => ['\\', d]
  | none =>
      if c.toNat ≤ 0xFF then '\\' :: 'x' :: hexDigits 2 c.toNat
      else if c.toNat ≤ 0xFFFF then '\\' :: 'u' :: hexDigits 4 c.toNat
      else '\\' :: 'U' :: hexDigits 8 c.toNat

/-- The text between double quotes. -/
def doubleBody (t : Text) : Text :=
  t.flatMap fun c =>
    if !isPrintable c || isBreak c || c = '"' || c = '\\' then escaped c else [c]

/-- The indentation digit of a literal block. -/
def indentHint (t : Text) : Text :=
  if t.head?.any fun c => isSpace c || isBreak c then ['2'] else []

/-- The mark for the line breaks at the end of a literal block. -/
def chompHint (t : Text) : Text :=
  match t.reverse with
  | [] => ['-']
  | [c] => if isBreak c then ['+'] else ['-']
  | c :: d :: _ => if isBreak c then (if isBreak d then ['+'] else []) else ['-']

/-- The lines of a literal block. -/
def literalBody (lineStart : Bool) : Text → Text
  | [] => []
  | c :: t =>
      if isBreak c then c :: literalBody true t
      else margin lineStart ++ c :: literalBody false t

/-- A string in a given style. -/
def writeAs (t : Text) : ScalarStyle → Text
  | .plain => t
  | .single => '\'' :: singleBody false t ++ ['\'']
  | .double => '"' :: doubleBody t ++ ['"']
  | .literal => '|' :: indentHint t ++ chompHint t ++ '\n' :: literalBody true t
  | .folded => t

/-- A string as it is written. -/
def writeText (t : Text) : Text :=
  writeAs t (styleOf t)

/-! ## Writing a mapping -/

/-- What a key can be given. -/
inductive Value where
  | text (t : Text)
  | flag (b : Bool)
  | list (ts : List Text)
deriving DecidableEq, Repr

/-- A line, ended unless it has ended already. -/
def endLine (t : Text) : Text :=
  if t.getLast?.any isBreak then t else t ++ ['\n']

/-- An item of a list. -/
def writeItem (t : Text) : Text :=
  endLine ('-' :: ' ' :: writeText t)

/-- What stands behind the colon of a key. -/
def writeValue : Value → Text
  | .text t => endLine (' ' :: writeText t)
  | .flag b => (if b then " true\n" else " false\n").toList
  | .list [] => " []\n".toList
  | .list ts => '\n' :: ts.flatMap writeItem

/-- A document. -/
def writeMapping (entries : List (String × Value)) : Text :=
  entries.flatMap fun (key, value) => key.toList ++ ':' :: writeValue value

end HeaderCheck.Yaml
