/-
# Reading scalars

A scalar is written plain, between quotes, or as an indented block.  Each
reader here takes the text behind the mark that opens the scalar — a plain
scalar has none — and gives its value and the text behind it.

Quoted scalars are first read into pieces, with escapes resolved and the
blanks and line breaks between words told apart from characters that were
escaped; folding the former gives the value.  Block scalars are first read
into lines, each with the empty lines behind it, and the style of the block
decides how the lines are joined.
-/
import HeaderCheck.Yaml.Character

namespace HeaderCheck.Yaml

/-- The ways to write a scalar. -/
inductive ScalarStyle where
  | plain
  | single
  | double
  | literal
  | folded
deriving DecidableEq, Repr

/-! ## Quoted scalars -/

/-- A piece of a quoted scalar: a character of its value, a blank or line
break between words, or the place of an escaped line break. -/
inductive Piece where
  | char (c : Char)
  | gap (c : Char)
  | joint
deriving DecidableEq, Repr

/-- The value of pieces, behind a run of blanks and line breaks.  Behind a
joint the run gives its line breaks only. -/
def foldPieces (behindJoint : Bool) (run : Text) : List Piece → Text
  | [] => if behindJoint then breaks run else foldGap run
  | .gap c :: ps => foldPieces behindJoint (run ++ [c]) ps
  | .char c :: ps =>
      (if behindJoint then breaks run else foldGap run) ++ c :: foldPieces false [] ps
  | .joint :: ps =>
      (if behindJoint then breaks run else foldGap run) ++ foldPieces true [] ps

/-- Adds a piece in front. -/
def consPiece (p : Piece) (r : Except Fault (List Piece × Text)) :
    Except Fault (List Piece × Text) :=
  r.map fun (ps, t) => (p :: ps, t)

/-- The pieces up to the closing single quote. -/
def readSingle (lineStart : Bool) : Text → Except Fault (List Piece × Text)
  | [] => .error .quoteUnclosed
  | '\'' :: '\'' :: t => consPiece (.char '\'') (readSingle false t)
  | '\'' :: t => .ok ([], t)
  | c :: t =>
      if lineStart && startsMarker (c :: t) then .error .quoteInterrupted
      else if isGap c then consPiece (.gap c) (readSingle (isBreak c) t)
      else consPiece (.char c) (readSingle false t)

/-- The value of a hexadecimal digit. -/
def hexDigit? (c : Char) : Option Nat :=
  if c.isDigit then some (c.toNat - 48)
  else if 'a' ≤ c ∧ c ≤ 'f' then some (c.toNat - 87)
  else if 'A' ≤ c ∧ c ≤ 'F' then some (c.toNat - 55)
  else none

/-- The character with a number, unless it is a surrogate or too large. -/
def scalarValue? (n : Nat) : Option Char :=
  if n < 0xD800 ∨ (0xDFFF < n ∧ n ≤ 0x10FFFF) then some (Char.ofNat n) else none

/-- What a single character means behind a backslash. -/
def escape? : Char → Option Char
  | '0' => some '\x00'
  | 'a' => some '\x07'
  | 'b' => some '\x08'
  | 't' => some '\t'
  | '\t' => some '\t'
  | 'n' => some '\n'
  | 'v' => some '\x0b'
  | 'f' => some '\x0c'
  | 'r' => some '\r'
  | 'e' => some '\x1b'
  | ' ' => some ' '
  | '"' => some '"'
  | '/' => some '/'
  | '\\' => some '\\'
  | 'N' => some '\u0085'
  | '_' => some '\u00a0'
  | 'L' => some '\u2028'
  | 'P' => some '\u2029'
  | _ => none

/-- How many digits follow a character behind a backslash. -/
def escapeDigits? : Char → Option Nat
  | 'x' => some 2
  | 'u' => some 4
  | 'U' => some 8
  | _ => none

/-- How far an escape has been read: not at all, through its backslash, or
up to the digits that are left. -/
inductive Escape where
  | outside
  | begun
  | digits (left value : Nat)
deriving DecidableEq, Repr

/-- The pieces up to the closing double quote. -/
def readDouble (e : Escape) (lineStart : Bool) : Text → Except Fault (List Piece × Text)
  | [] => .error .quoteUnclosed
  | '\r' :: '\n' :: t =>
      match e with
      | .outside =>
          consPiece (.gap '\r') (consPiece (.gap '\n') (readDouble .outside true t))
      | .begun => consPiece .joint (readDouble .outside true t)
      | .digits _ _ => .error .escapeDigits
  | c :: t =>
      match e with
      | .outside =>
          if c = '"' then .ok ([], t)
          else if c = '\\' then readDouble .begun false t
          else if lineStart && startsMarker (c :: t) then .error .quoteInterrupted
          else if isGap c then consPiece (.gap c) (readDouble .outside (isBreak c) t)
          else consPiece (.char c) (readDouble .outside false t)
      | .begun =>
          if isBreak c then consPiece .joint (readDouble .outside true t)
          else match escape? c, escapeDigits? c with
            | some d, _ => consPiece (.char d) (readDouble .outside false t)
            | none, some n => readDouble (.digits n 0) false t
            | none, none => .error .escapeUnknown
      | .digits left value =>
          match hexDigit? c with
          | none => .error .escapeDigits
          | some d =>
              let value := 16 * value + d
              if 1 < left then readDouble (.digits (left - 1) value) false t
              else match scalarValue? value with
                | some d => consPiece (.char d) (readDouble .outside false t)
                | none => .error .escapeCharacter

/-! ## Plain scalars -/

/-- The marks that end a plain scalar in a flow collection. -/
def isFlowMark (c : Char) : Bool :=
  c = ',' || c = '[' || c = ']' || c = '\x7b' || c = '\x7d'

/-- Does a flow mark come next, or a question mark? -/
def startsFlowMark : Text → Bool
  | [] => false
  | c :: _ => isFlowMark c || c = '?'

/-- Does the scalar end before the word that starts here, behind a run of
blanks and line breaks?  A comment or a document marker ends it, and outside
of a flow collection a word that is not indented enough. -/
def endsBehindGap (inFlow : Bool) (indent : Nat) (run : Text) (column : Nat) (t : Text) :
    Bool :=
  !run.isEmpty &&
    ((!inFlow && run.any isBreak && column < indent) || t.head? = some '#' ||
      (column = 0 && startsMarker t))

/-- Does the scalar end at a mark that starts here? -/
def endsAtMark (inFlow : Bool) : Text → Bool
  | [] => true
  | c :: t => (c = ':' && startsGap t) || (inFlow && isFlowMark c)

/-- The value of a plain scalar, the text behind it and the run of blanks
and line breaks that follows it.  The words on later lines have to stand at
column `indent` at least. -/
def readPlain (inFlow : Bool) (indent : Nat) (run : Text) (column : Nat) :
    Text → Except Fault (Text × Text × Text)
  | [] => .ok ([], [], run)
  | c :: t =>
      if isGap c then
        if c = '\t' && run.any isBreak && column < indent then .error .tabIndentation
        else readPlain inFlow indent (run ++ [c]) (if isBreak c then 0 else column + 1) t
      else if endsBehindGap inFlow indent run column (c :: t) then .ok ([], c :: t, run)
      else if inFlow && c = ':' && startsFlowMark t then .error .colonMisplaced
      else if endsAtMark inFlow (c :: t) then .ok ([], c :: t, run)
      else (readPlain inFlow indent [] (column + 1) t).map fun (value, rest) =>
        (foldGap run ++ c :: value, rest)

/-! ## Block scalars -/

/-- What becomes of the line breaks at the end of a block scalar. -/
inductive Chomping where
  | strip
  | clip
  | keep
deriving DecidableEq, Repr

/-- The mark for a chomping. -/
def chomping? : Char → Option Chomping
  | '-' => some .strip
  | '+' => some .keep
  | _ => none

/-- A chomping mark, if there is one. -/
def readChomping : Text → Chomping × Text
  | [] => (.clip, [])
  | c :: t => match chomping? c with
      | some k => (k, t)
      | none => (.clip, c :: t)

/-- A digit that gives the indentation, if there is one. -/
def readIncrement : Text → Except Fault (Option Nat × Text)
  | [] => .ok (none, [])
  | c :: t =>
      if c = '0' then .error .indentationZero
      else if c.isDigit then .ok (some (c.toNat - 48), t)
      else .ok (none, c :: t)

/-- The rest of a line that may hold nothing but a comment, taken off. -/
def skipComment? (t : Text) : Option Text :=
  let t := t.dropWhile isBlank
  let t := if t.head? = some '#' then t.dropWhile (!isBreak ·) else t
  if startsBreak t then some (((splitBreak? t).map (·.2)).getD []) else none

/-- The first line of a block scalar: what becomes of its end, and the
indentation if it is given. -/
def readBlockHeader (t : Text) : Except Fault (Chomping × Option Nat × Text) := do
  let (first, t) := readChomping t
  let (increment, t) ← readIncrement t
  let (chomping, t) :=
    if first = .clip && increment.isSome then readChomping t else (first, t)
  match skipComment? t with
  | some t => return (chomping, increment, t)
  | none => throw .blockHeaderEnd

/-- Empty lines, and the indentation of the line behind them: their line
breaks, the largest column that their spaces reach, the column of the text
behind them, and that text. -/
structure EmptyLines where
  breaks : Text
  widest : Nat
  column : Nat
  rest : Text
deriving DecidableEq, Repr

/-- Reads empty lines and at most `limit` spaces of indentation. -/
def readEmptyLines (limit : Option Nat) (column widest : Nat) :
    Text → Except Fault EmptyLines
  | [] => .ok { breaks := [], widest, column, rest := [] }
  | '\r' :: '\n' :: t =>
      (readEmptyLines limit 0 widest t).map fun e => { e with breaks := '\n' :: e.breaks }
  | c :: t =>
      let inside := limit.all (column < ·)
      if c = ' ' && inside then
        readEmptyLines limit (column + 1) (max widest (column + 1)) t
      else if c = '\t' && inside then .error .tabIndentation
      else if isBreak c then
        (readEmptyLines limit 0 widest t).map fun e =>
          { e with breaks := (if isSeparator c then c else '\n') :: e.breaks }
      else .ok { breaks := [], widest, column, rest := c :: t }

/-- A line of a block scalar, its line break, and the empty lines behind
it. -/
structure BlockLine where
  text : Text
  ending : Option Char
  empty : Text
deriving DecidableEq, Repr

/-- The lines that stand at a given column, and the text behind them.  Each
line consumes a character, so `fuel` is the number of characters. -/
def readBlockLines (indent : Nat) :
    (fuel column : Nat) → Text → Except Fault (List BlockLine × Text)
  | 0, _, t => .ok ([], t)
  | fuel + 1, column, t =>
      if column ≠ indent || t.isEmpty then .ok ([], t)
      else
        let text := t.takeWhile (!isBreak ·)
        match splitBreak? (t.dropWhile (!isBreak ·)) with
        | none => .ok ([⟨text, none, []⟩], [])
        | some (b, u) => do
            let e ← readEmptyLines (some indent) 0 0 u
            let (lines, rest) ← readBlockLines indent fuel e.column e.rest
            return (⟨text, some b, e.breaks⟩ :: lines, rest)

/-- The lines of a block scalar joined: `ending` and `empty` are what stands
between the line before and the next one.  A folded scalar joins two lines
by a space, unless one of them starts with a blank. -/
def joinLines (folded : Bool) (chomping : Chomping) (ending : Option Char)
    (blankBefore : Bool) (empty : Text) : List BlockLine → Text
  | [] =>
      match chomping with
      | .strip => []
      | .clip => ending.toList
      | .keep => ending.toList ++ empty
  | l :: ls =>
      let blank := l.text.head?.any isBlank
      let separator :=
        if folded && ending = some '\n' && !blankBefore && !blank then
          (if empty.isEmpty then [' '] else [])
        else ending.toList
      separator ++ empty ++ l.text ++ joinLines folded chomping l.ending blank l.empty ls

/-- The value of a block scalar inside a collection at column `indent - 1`,
and the text behind it. -/
def readBlock (folded : Bool) (indent : Nat) (t : Text) : Except Fault (Text × Text) := do
  let (chomping, increment, t) ← readBlockHeader t
  let given := increment.map (indent - 1 + ·)
  let e ← readEmptyLines given 0 0 t
  let width := given.getD (max (max e.widest indent) 1)
  let (lines, rest) ← readBlockLines width e.rest.length e.column e.rest
  return (joinLines folded chomping none false e.breaks lines, rest)

end HeaderCheck.Yaml
