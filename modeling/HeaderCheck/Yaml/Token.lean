/-
# Tokens

The marks of a document, with the collections that indentation opens and
closes made explicit: a block collection has a token where it opens and one
where it ends, and a key has a token in front of it even where only the
colon behind it shows that it is one.

The readers here take what follows the first character of a directive, an
anchor or a tag.
-/
import HeaderCheck.Yaml.Scalar

namespace HeaderCheck.Yaml

/-- The tokens of a document. -/
inductive Token where
  | version (major minor : Nat)
  | tagDirective (handle address : Text)
  | documentStart
  | documentEnd
  | blockSequence
  | blockMapping
  | blockEnd
  | flowSequence
  | flowSequenceEnd
  | flowMapping
  | flowMappingEnd
  | entry
  | separator
  | key
  | value
  | alias (name : Text)
  | anchor (name : Text)
  | tag (handle suffix : Text)
  | scalar (style : ScalarStyle) (value : Text)
deriving DecidableEq, Repr

/-! ## Names -/

/-- The characters that may stand behind the name of an anchor. -/
def endsAnchor : Text → Bool
  | [] => true
  | c :: _ => isGap c || ['?', ':', ',', ']', '\x7d', '%', '@', '\x60'].contains c

/-- The name of an anchor or an alias. -/
def readAnchor (t : Text) : Except Fault (Text × Text) :=
  let name := t.takeWhile isNameChar
  let rest := t.dropWhile isNameChar
  if !name.isEmpty && endsAnchor rest then .ok (name, rest) else .error .anchorName

/-! ## Tags -/

/-- The characters of tag addresses other than letters and digits. -/
def addressMarks : Text := ";/?:@&=+$.!~*'()".toList

/-- May a character stand in a tag address?  Between angle brackets, commas
and brackets may. -/
def isAddressChar (verbatim : Bool) (c : Char) : Bool :=
  isNameChar c || addressMarks.contains c || (verbatim && (c = ',' || c = '[' || c = ']'))

/-- How many bytes a character takes, by the first of them. -/
def sequenceLength? (b : Nat) : Option Nat :=
  if b < 0x80 then some 1
  else if 0xC0 ≤ b ∧ b < 0xE0 then some 2
  else if 0xE0 ≤ b ∧ b < 0xF0 then some 3
  else if 0xF0 ≤ b ∧ b < 0xF8 then some 4
  else none

/-- A tag address, with its escaped bytes as characters.  `missing` counts
the bytes that an escaped character still lacks. -/
def readAddress (verbatim : Bool) (missing : Nat) : Text → Except Fault (Text × Text)
  | '%' :: a :: b :: t => do
      match hexDigit? a, hexDigit? b with
      | some a, some b =>
          let byte := 16 * a + b
          let left ←
            if 0 < missing then
              if 0x80 ≤ byte ∧ byte < 0xC0 then pure (missing - 1) else throw .tagEscape
            else match sequenceLength? byte with
              | some n => pure (n - 1)
              | none => throw .tagEscape
          let (address, rest) ← readAddress verbatim left t
          return (Char.ofNat byte :: address, rest)
      | _, _ => throw .tagEscape
  | c :: t =>
      if 0 < missing || c = '%' then .error .tagEscape
      else if isAddressChar verbatim c then
        (readAddress verbatim 0 t).map fun (address, rest) => (c :: address, rest)
      else .ok ([], c :: t)
  | [] => if 0 < missing then .error .tagEscape else .ok ([], [])

/-- A handle without its first mark: a name, and a mark behind it if there
is one. -/
def readHandle (t : Text) : Text × Text :=
  let name := t.takeWhile isNameChar
  match t.dropWhile isNameChar with
  | '!' :: rest => (name ++ ['!'], rest)
  | rest => (name, rest)

/-- The handle and the suffix of a tag. -/
def readTagName : Text → Except Fault ((Text × Text) × Text)
  | '<' :: t => do
      match ← readAddress true 0 t with
      | ([], _) => throw .tagAddress
      | (suffix, '>' :: rest) => return (([], suffix), rest)
      | _ => throw .tagEnd
  | t => do
      let (handle, behind) := readHandle t
      if handle.getLast? = some '!' then
        match ← readAddress false 0 behind with
        | ([], _) => throw .tagAddress
        | (suffix, rest) => return (('!' :: handle, suffix), rest)
      else
        let (more, rest) ← readAddress false 0 behind
        let suffix := handle ++ more
        return (if suffix.isEmpty then ([], ['!']) else (['!'], suffix), rest)

/-- A tag, which a blank or a line break has to follow, or in a flow
collection a comma. -/
def readTag (inFlow : Bool) (t : Text) : Except Fault (Token × Text) := do
  let ((handle, suffix), rest) ← readTagName t
  if startsGap rest || (inFlow && rest.head? = some ',') then
    return (.tag handle suffix, rest)
  else throw .tagEnd

/-! ## Directives -/

/-- A decimal number of at most nine digits. -/
def readNumber (t : Text) : Except Fault (Nat × Text) :=
  let digits := t.takeWhile Char.isDigit
  if digits.isEmpty || 9 < digits.length then .error .directiveValue
  else .ok (digits.foldl (fun n d => 10 * n + (d.toNat - 48)) 0, t.dropWhile Char.isDigit)

/-- The value of a version directive. -/
def readVersion (t : Text) : Except Fault (Token × Text) := do
  let (major, t) ← readNumber (t.dropWhile isBlank)
  match t with
  | '.' :: t =>
      let (minor, t) ← readNumber t
      return (.version major minor, t)
  | _ => throw .directiveValue

/-- The value of a tag directive. -/
def readTagDirective (t : Text) : Except Fault (Token × Text) := do
  match t.dropWhile isBlank with
  | '!' :: t =>
      let (handle, t) := readHandle t
      if !handle.isEmpty && handle.getLast? ≠ some '!' then throw .tagHandle
      else if t.head?.any isBlank then
        match ← readAddress true 0 (t.dropWhile isBlank) with
        | ([], _) => throw .tagAddress
        | (address, rest) =>
            if startsGap rest then return (.tagDirective ('!' :: handle) address, rest)
            else throw .directiveValue
      else throw .directiveValue
  | _ => throw .tagHandle

/-- A directive, through the end of its line. -/
def readDirective (t : Text) : Except Fault (Token × Text) := do
  let name := t.takeWhile isNameChar
  let rest := t.dropWhile isNameChar
  if !startsGap rest then throw .directiveName
  let (token, rest) ←
    if name = "YAML".toList then readVersion rest
    else if name = "TAG".toList then readTagDirective rest
    else throw .directiveName
  match skipComment? rest with
  | some rest => return (token, rest)
  | none => throw .directiveEnd

end HeaderCheck.Yaml
