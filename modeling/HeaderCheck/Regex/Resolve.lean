/-
# Resolving the flags of a pattern

The meaning of a part depends on the flags in force where it stands.  A
change of flags lasts to the end of the group it stands in, across the
branches of that group, so the resolution runs through the tree from left
to right and hands the flags on.

Outside of Unicode mode a pattern speaks about bytes.  Texts are always
valid UTF-8, and a pattern that could match a part of a character's bytes
is refused: the dot, bytes beyond ASCII, and classes that contain such
bytes.
-/
import HeaderCheck.Regex.Space
import HeaderCheck.Regex.Reader

namespace HeaderCheck.Regex

/-- The flags that matter for what a part matches. -/
structure Mode where
  ignoreCase : Bool
  multiLine : Bool
  dotAll : Bool
  unicode : Bool
  anyBreak : Bool
deriving DecidableEq, Repr

namespace Mode

/-- The flags at the start of a pattern. -/
def initial : Mode :=
  { ignoreCase := false, multiLine := false, dotAll := false, unicode := true,
    anyBreak := false }

/-- The flags after a list of changes. -/
def change (m : Mode) (fs : FlagChanges) : Mode :=
  { ignoreCase := (fs.value? .ignoreCase).getD m.ignoreCase
    multiLine := (fs.value? .multiLine).getD m.multiLine
    dotAll := (fs.value? .dotAll).getD m.dotAll
    unicode := (fs.value? .unicode).getD m.unicode
    anyBreak := (fs.value? .anyBreak).getD m.anyBreak }

/-- Closes a set under change of case, if case is to be ignored. -/
def fold (m : Mode) (s : CharSet) : CharSet :=
  if !m.ignoreCase then s else if m.unicode then .folded s else .foldedAscii s

/-- The complement of a set, if it is to be negated. -/
def negate (negated : Bool) (s : CharSet) : CharSet :=
  if negated then .compl s else s

/-- The set of a class with a letter of its own. -/
def letterSet (m : Mode) : LetterClass → CharSet
  | .digit => if m.unicode then .digit else .asciiDigit
  | .blank => if m.unicode then .blank else .asciiBlank
  | .word => if m.unicode then .word else .asciiWord

/-- The set of a property class. -/
def propertySet (m : Mode) (n : PropertyName) (negated : Bool) : Except Fault CharSet :=
  if !m.unicode then .error .unicodeNotAllowed
  else
    let found := match n with
      | .single name => Unicode.Property.named? name
      | .valued name value => Unicode.Property.valued? name value
    match found with
    | some p => .ok (negate negated (m.fold (.property p)))
    | none => .error .propertyUnknown

/-- Refuses a set that is about bytes and holds some beyond ASCII. -/
def checkBytes (m : Mode) (s : CharSet) : Except Fault CharSet :=
  if m.unicode || s.isAscii then .ok s else .error .matchesInvalidText

/-- A character of a pattern, unless it stands for a byte beyond ASCII. -/
def character (m : Mode) (l : Literal) : Except Fault Char :=
  if !m.unicode && l.asByte && l.char.toNat ≥ 128 then .error .matchesInvalidText
  else .ok l.char

/-- A character of a class.  Outside of Unicode mode it has to be ASCII. -/
def classCharacter (m : Mode) (l : Literal) : Except Fault Char := do
  let c ← m.character l
  if m.unicode || c.toNat < 128 then return c else throw .unicodeNotAllowed

/-- The set of a bracketed class or of a part of one. -/
def classSet (m : Mode) : ClassSet → Except Fault CharSet
  | .empty => .ok .none
  | .literal l => do return .char (← m.classCharacter l)
  | .range a b => do
      return .range (← m.classCharacter a).toNat (← m.classCharacter b).toNat
  | .named name negated =>
      .ok (negate negated (m.fold ((CharSet.bracketName? name).getD .none)))
  | .letter k negated => .ok (negate negated (m.letterSet k))
  | .property n negated => m.propertySet n negated
  | .bracket negated s => do return negate negated (m.fold (← m.classSet s))
  | .union s t => do return .union (← m.classSet s) (← m.classSet t)
  | .op k s t => do
      let a := m.fold (← m.classSet s)
      let b := m.fold (← m.classSet t)
      match k with
      | .inter => return .inter a b
      | .diff => return .diff a b
      | .symmDiff => return .symmDiff a b

/-- What the dot matches. -/
def dotSet (m : Mode) : CharSet :=
  if m.dotAll then .all
  else if m.anyBreak then .compl (.union (.char '\n') (.char '\r'))
  else .compl (.char '\n')

/-- The test that an assertion means. -/
def assertionTest (m : Mode) : Assertion → Test
  | .caret =>
      if !m.multiLine then .textStart
      else if m.anyBreak then .lineStartAnyBreak else .lineStart
  | .dollar =>
      if !m.multiLine then .textEnd
      else if m.anyBreak then .lineEndAnyBreak else .lineEnd
  | .textStart => .textStart
  | .textEnd => .textEnd
  | .wordEdge => .wordEdge m.unicode
  | .noWordEdge => .noWordEdge m.unicode
  | .wordStart => .wordStart m.unicode
  | .wordEnd => .wordEnd m.unicode
  | .noWordBefore => .noWordBefore m.unicode
  | .noWordAfter => .noWordAfter m.unicode

end Mode

/-- The expression that a part of a pattern means, and the flags behind
it. -/
def Ast.resolve (m : Mode) : Ast → Except Fault (Mode × Expr)
  | .empty => .ok (m, .empty)
  | .flags fs => .ok (m.change fs, .empty)
  | .literal l => do return (m, .char (m.fold (.char (← m.character l))))
  | .dot => if m.unicode then .ok (m, .char m.dotSet) else .error .matchesInvalidText
  | .assertion a => .ok (m, .test (m.assertionTest a))
  | .letter k negated => do
      return (m, .char (← m.checkBytes (Mode.negate negated (m.letterSet k))))
  | .property n negated => do return (m, .char (← m.propertySet n negated))
  | .set s => do return (m, .char (← m.checkBytes (← m.classSet s)))
  | .rep a least most => do
      let (m, r) ← a.resolve m
      return (m, .rep r least most)
  | .group fs a => do
      let (_, r) ← a.resolve (m.change fs)
      return (m, r)
  | .seq a b => do
      let (m, r) ← a.resolve m
      let (m, s) ← b.resolve m
      return (m, .seq r s)
  | .alt a b => do
      let (m, r) ← a.resolve m
      let (m, s) ← b.resolve m
      return (m, .alt r s)

/-- The expression that a pattern means. -/
def Expr.ofPattern (t : Text) : Except Fault Expr := do
  let (_, r) ← (← Ast.read t).resolve .initial
  if r.space ≤ spaceLimit then return r else throw .tooLarge

end HeaderCheck.Regex
