/-
# From characters to tokens

A document is read from left to right by `Layout.step`, one mark or scalar
at a time.  Two things are carried along.

The open block collections are kept as the stack of their columns.  Text in
a smaller column than the innermost one closes it, and a dash or a key in a
larger column opens a new one.

A scalar may turn out to be a key only when a colon follows it, so where a
key may stand the number of tokens so far is remembered, and the colon
inserts the token of the key there.  Such a key has to end on its line and
within 1024 characters.  Inside of brackets each level remembers its own.
-/
import HeaderCheck.Yaml.Token

namespace HeaderCheck.Yaml

/-- A place where a key may have started: whether one has to stand there,
how many tokens precede it, and where it is. -/
structure KeyPlace where
  required : Bool
  tokens : Nat
  mark : Mark
deriving DecidableEq, Repr

/-- How far a document has been read.  The tokens are kept with the last
one first, the columns of open collections and the levels of brackets with
the innermost first. -/
structure Layout where
  rest : Text
  mark : Mark
  tokens : List Token
  columns : List Nat
  key : Option KeyPlace
  outerKeys : List (Option KeyPlace)
  keyAllowed : Bool
deriving Repr

namespace Layout

/-- The start of a document. -/
def start (t : Text) : Layout :=
  { rest := t, mark := .start, tokens := [], columns := [], key := none, outerKeys := [],
    keyAllowed := true }

/-- Is the place inside of brackets? -/
def inFlow (l : Layout) : Bool :=
  !l.outerKeys.isEmpty

/-- The column that text has to reach in order not to close a collection,
counted from one; zero outside of all of them. -/
def indent (l : Layout) : Nat :=
  match l.columns with
  | [] => 0
  | c :: _ => c + 1

/-- Moves on to `rest`, an end of the remaining text. -/
def moveTo (l : Layout) (rest : Text) : Layout :=
  { l with rest, mark := l.mark.after (l.rest.take (l.rest.length - rest.length)) }

/-- Adds a token. -/
def push (l : Layout) (t : Token) : Layout :=
  { l with tokens := t :: l.tokens }

/-- Adds tokens behind the first `place` ones. -/
def insertAt (l : Layout) (place : Nat) (ts : List Token) : Layout :=
  let n := l.tokens.length - place
  { l with tokens := l.tokens.take n ++ ts.reverse ++ l.tokens.drop n }

/-! ## Blanks and comments -/

/-- The text behind blanks, comments and line breaks, and whether a line
break was among them.  Tabs count as blanks where no key may stand. -/
def skipGap (inFlow : Bool) (keyAllowed comment : Bool) (column : Nat) : Text → Text × Bool
  | [] => ([], keyAllowed)
  | c :: t =>
      if isBreak c then
        skipGap inFlow (keyAllowed || !inFlow) false 0 t
      else if comment then skipGap inFlow keyAllowed true (column + 1) t
      else if column = 0 && c = '\uFEFF' then skipGap inFlow keyAllowed false 1 t
      else if c = ' ' || (c = '\t' && (inFlow || !keyAllowed)) then
        skipGap inFlow keyAllowed false (column + 1) t
      else if c = '#' then skipGap inFlow keyAllowed true (column + 1) t
      else (c :: t, keyAllowed)

/-- Moves on to the next mark or scalar. -/
def skip (l : Layout) : Layout :=
  let (rest, keyAllowed) := skipGap l.inFlow l.keyAllowed false l.mark.column l.rest
  { l.moveTo rest with keyAllowed }

/-! ## Keys that have not shown -/

/-- The longest distance between the start of a key and its colon. -/
def maxKeyLength : Nat := 1024

/-- Forgets a place where no key can start any more. -/
def expire (m : Mark) : Option KeyPlace → Except Fault (Option KeyPlace)
  | none => .ok none
  | some k =>
      if k.mark.line < m.line || k.mark.index + maxKeyLength < m.index then
        if k.required then .error .keyWithoutColon else .ok none
      else .ok (some k)

/-- Forgets the places that are too far back, on all levels. -/
def expireKeys (l : Layout) : Except Fault Layout := do
  let key ← expire l.mark l.key
  let outerKeys ← l.outerKeys.mapM (expire l.mark)
  return { l with key, outerKeys }

/-- Forgets the place of the innermost level. -/
def dropKey (l : Layout) : Except Fault Layout :=
  if l.key.any (·.required) then .error .keyWithoutColon
  else .ok { l with key := none }

/-- Remembers the current place, if a key may stand here. -/
def saveKey (l : Layout) : Except Fault Layout :=
  if l.keyAllowed then do
    let l ← l.dropKey
    let required := !l.inFlow && l.indent = l.mark.column + 1
    return { l with key := some { required, tokens := l.tokens.length, mark := l.mark } }
  else .ok l

/-! ## Indentation -/

/-- Closes the collections in columns from `column` on. -/
def closeTo (column : Nat) : List Nat → List Token → List Nat × List Token
  | [], ts => ([], ts)
  | c :: cs, ts =>
      if column ≤ c then closeTo column cs (.blockEnd :: ts) else (c :: cs, ts)

/-- Closes the collections whose column is `column` or larger. -/
def close (l : Layout) (column : Nat) : Layout :=
  if l.inFlow then l
  else
    let (columns, tokens) := closeTo column l.columns l.tokens
    { l with columns, tokens }

/-- Opens a collection at a column, if none is open there, with its token
behind the first `place` ones. -/
def openAt (l : Layout) (column place : Nat) (t : Token) : Layout :=
  if !l.inFlow && l.indent ≤ column then
    { l.insertAt place [t] with columns := column :: l.columns }
  else l

/-- Opens a collection at the current place. -/
def openHere (l : Layout) (t : Token) : Layout :=
  l.openAt l.mark.column l.tokens.length t

/-! ## Marks -/

/-- Reads a mark of `n` characters as a token. -/
def readMark (l : Layout) (n : Nat) (t : Token) : Layout :=
  (l.moveTo (l.rest.drop n)).push t

/-- Reads what stands at the left margin: a directive or a document
marker. -/
def margin (l : Layout) : Except Fault Layout := do
  let l ← (l.close 0).dropKey
  return { l with keyAllowed := false }

/-- Reads a bracket that opens a collection. -/
def openBracket (l : Layout) (t : Token) : Except Fault Layout := do
  let l ← l.saveKey
  return { l.readMark 1 t with
    key := none, outerKeys := l.key :: l.outerKeys, keyAllowed := true }

/-- Reads a bracket that closes a collection. -/
def closeBracket (l : Layout) (t : Token) : Except Fault Layout := do
  let l ← l.dropKey
  let l := { l.readMark 1 t with keyAllowed := false }
  match l.outerKeys with
  | [] => return l
  | k :: ks => return { l with key := k, outerKeys := ks }

/-- Reads the comma between the items of a collection in brackets. -/
def readSeparator (l : Layout) : Except Fault Layout := do
  let l ← l.dropKey
  return { l.readMark 1 .separator with keyAllowed := true }

/-- Reads the dash of an item. -/
def readEntry (l : Layout) : Except Fault Layout := do
  if !l.inFlow && !l.keyAllowed then throw .entryNotAllowed
  let l ← (l.openHere .blockSequence).dropKey
  return { l.readMark 1 .entry with keyAllowed := true }

/-- Reads the question mark of a key. -/
def readKey (l : Layout) : Except Fault Layout := do
  if !l.inFlow && !l.keyAllowed then throw .keyNotAllowed
  let l ← (l.openHere .blockMapping).dropKey
  return { l.readMark 1 .key with keyAllowed := !l.inFlow }

/-- Reads the colon of a value.  If the place of a key is remembered, the
key and the collection that it opens are put there. -/
def readValue (l : Layout) : Except Fault Layout :=
  match l.key with
  | some k =>
      let l := l.insertAt k.tokens [.key]
      let l := l.openAt k.mark.column k.tokens .blockMapping
      .ok { l.readMark 1 .value with key := none, keyAllowed := false }
  | none =>
      if !l.inFlow && !l.keyAllowed then .error .valueNotAllowed
      else .ok { (l.openHere .blockMapping).readMark 1 .value with keyAllowed := !l.inFlow }

/-! ## Scalars and properties -/

/-- Reads what may start a key: `read` is applied to the text behind the
first `n` characters. -/
def readKeyPart (l : Layout) (n : Nat) (read : Text → Except Fault (Token × Text)) :
    Except Fault Layout := do
  let l ← l.saveKey
  let (t, rest) ← read (l.rest.drop n)
  return { (l.moveTo rest).push t with keyAllowed := false }

/-- Reads a quoted scalar. -/
def readQuoted (l : Layout) (style : ScalarStyle)
    (read : Text → Except Fault (List Piece × Text)) : Except Fault Layout :=
  l.readKeyPart 1 fun t => do
    let (ps, rest) ← read t
    return (.scalar style (foldPieces false [] ps), rest)

/-- Reads a plain scalar.  Behind one that ends with a line break a key may
stand. -/
def readPlainScalar (l : Layout) : Except Fault Layout := do
  let l ← l.saveKey
  let (value, rest, run) ← readPlain l.inFlow l.indent [] l.mark.column l.rest
  return { (l.moveTo rest).push (.scalar .plain value) with keyAllowed := run.any isBreak }

/-- Reads a block scalar. -/
def readBlockScalar (l : Layout) (style : ScalarStyle) : Except Fault Layout := do
  let l ← l.dropKey
  let (value, rest) ← readBlock (style = .folded) l.indent (l.rest.drop 1)
  return { (l.moveTo rest).push (.scalar style value) with keyAllowed := true }

/-! ## One step -/

/-- The characters that no plain scalar starts with. -/
def indicators : Text := "-?:,[]\x7b\x7d#&*!|>'\"%@\x60".toList

/-- May a plain scalar start here? -/
def startsPlain (inFlow : Bool) : Text → Bool
  | [] => false
  | c :: t =>
      (!isGap c && !indicators.contains c) || (c = '-' && !t.head?.any isBlank) ||
        (!inFlow && (c = '?' || c = ':') && !startsGap t)

/-- Reads the mark or scalar that comes next. -/
def readNext (l : Layout) : Except Fault Layout :=
  let atMargin := l.mark.column = 0
  match l.rest with
  | [] => .ok l
  | '%' :: t =>
      if atMargin then do
        let l ← l.margin
        let (token, rest) ← readDirective t
        return (l.moveTo rest).push token
      else .error .noToken
  | c :: t =>
      if atMargin && startsMarker l.rest then do
        return (← l.margin).readMark 3 (if c = '-' then .documentStart else .documentEnd)
      else if c = '[' then l.openBracket .flowSequence
      else if c = '\x7b' then l.openBracket .flowMapping
      else if c = ']' then l.closeBracket .flowSequenceEnd
      else if c = '\x7d' then l.closeBracket .flowMappingEnd
      else if c = ',' then l.readSeparator
      else if c = '-' && startsGap t then l.readEntry
      else if c = '?' && (l.inFlow || startsGap t) then l.readKey
      else if c = ':' && (l.inFlow || startsGap t) then l.readValue
      else if c = '*' then
        l.readKeyPart 1 fun t => (readAnchor t).map fun (name, rest) => (.alias name, rest)
      else if c = '&' then
        l.readKeyPart 1 fun t => (readAnchor t).map fun (name, rest) => (.anchor name, rest)
      else if c = '!' then l.readKeyPart 1 (readTag l.inFlow)
      else if c = '|' && !l.inFlow then l.readBlockScalar .literal
      else if c = '>' && !l.inFlow then l.readBlockScalar .folded
      else if c = '\'' then l.readQuoted .single (readSingle false)
      else if c = '"' then l.readQuoted .double (readDouble .outside false)
      else if startsPlain l.inFlow l.rest then l.readPlainScalar
      else .error .noToken

/-- Goes to the next mark or scalar, closes the collections that end before
it, and reads it; `none` at the end. -/
def step (l : Layout) : Except Fault (Option Layout) := do
  let l ← l.skip.expireKeys
  if l.rest.isEmpty then return none
  return some (← (l.close (l.mark.column + 1)).readNext)

/-- The end of a document: all collections are closed. -/
def finish (l : Layout) : Except Fault (List Token) := do
  let l ← l.skip.expireKeys
  let l ← (l.close 0).dropKey
  return l.tokens.reverse

/-- All the tokens.  Each step consumes a character, so `fuel` is the number
of characters. -/
def run : (fuel : Nat) → Layout → Except Fault (List Token)
  | 0, l => l.finish
  | fuel + 1, l => do
      match ← l.step with
      | none => l.finish
      | some l => run fuel l

end Layout

/-- The tokens of a document. -/
def Token.ofText (t : Text) : Except Fault (List Token) :=
  if t.all isAllowed then (Layout.start t).run t.length else .error .controlCharacter

end HeaderCheck.Yaml
