/-
# Reading a pattern

The pattern is read from left to right with a stack of open groups.  In the
verbose notation blanks and comments may stand between the parts of a
pattern, and also between the parts of an escape or of a count, which is
why nearly every step below is told whether it is verbose.

Each loop runs on a count of steps taken from the length of what is left.
Every step consumes a character, so the count never runs out before the
text does.
-/
import HeaderCheck.Text.Blank
import HeaderCheck.Unicode.Property
import HeaderCheck.Regex.Fault
import HeaderCheck.Regex.Syntax

namespace HeaderCheck.Regex

open HeaderCheck.Unicode

/-- A part that was read, and what is left. -/
abbrev Rest (α : Type) := α × Text

/-! ## Blanks in the verbose notation -/

/-- Steps over blanks and comments. -/
def skipVerbose : (inComment : Bool) → Text → Text
  | _, [] => []
  | true, c :: t => skipVerbose (c ≠ '\n') t
  | false, c :: t =>
      if isBlank c then skipVerbose false t
      else if c = '#' then skipVerbose true t
      else c :: t

/-- Steps over what the notation ignores. -/
def skip (verbose : Bool) (t : Text) : Text :=
  if verbose then skipVerbose false t else t

/-- The next character that counts.  A comment is looked into: the first
character of it is the answer. -/
def peek? (verbose : Bool) (t : Text) : Option Char :=
  if !verbose then t.head?
  else match t.dropWhile isBlank with
    | [] => t.head?
    | '#' :: u => (u.dropWhile isBlank).head?.or t.head?
    | c :: _ => some c

/-! ## Numbers and hexadecimal escapes -/

/-- The value of a hexadecimal digit. -/
def hexValue? (c : Char) : Option Nat :=
  if c.isDigit then some (c.toNat - 48)
  else if 'a' ≤ c && c ≤ 'f' then some (c.toNat - 87)
  else if 'A' ≤ c && c ≤ 'F' then some (c.toNat - 55)
  else none

/-- The character with a given number. -/
def charOf? (n : Nat) : Option Char :=
  if h : n.isValidChar then some (Char.ofNatAux n h) else none

/-- Decimal digits, with what may stand between them. -/
def readDigits (verbose : Bool) : (fuel : Nat) → (value : Option Nat) → Text →
    Option Nat × Text
  | fuel + 1, value, c :: t =>
      if c.isDigit then
        readDigits verbose fuel (some (value.getD 0 * 10 + (c.toNat - 48))) (skip verbose t)
      else (value, c :: t)
  | _, value, t => (value, t)

/-- Steps over blanks, in the verbose notation over comments behind one as
well. -/
def skipBlanks (verbose : Bool) : (fuel : Nat) → Text → Text
  | fuel + 1, c :: t =>
      if isBlank c then skipBlanks verbose fuel (skip verbose t) else c :: t
  | _, t => t

/-- Counts stay below 2 to the power of 32. -/
def countBound : Nat := 0x100000000

/-- The number in a count, blanks around it ignored, and what is left. -/
def readCount (verbose : Bool) (t : Text) : Except Fault Nat × Text :=
  let (value, t) := readDigits verbose t.length none (t.dropWhile isBlank)
  let t := skipBlanks verbose t.length t
  match value with
  | none => (.error .countEmpty, t)
  | some n => (if n < countBound then .ok n else .error .countTooLarge, t)

/-- A fixed number of hexadecimal digits. -/
def readHexDigits (verbose : Bool) : (digits value : Nat) → Text → Except Fault (Rest Nat)
  | 0, value, t => .ok (value, t)
  | n + 1, value, t =>
      match t with
      | [] => .error .escapeUnfinished
      | c :: t =>
          match hexValue? c with
          | some d => readHexDigits verbose n (value * 16 + d) (skip verbose t)
          | none => .error .hexDigitInvalid

/-- Hexadecimal digits up to a closing brace. -/
def readHexBraced (verbose : Bool) : (fuel : Nat) → (value : Option Nat) → Text → Except Fault (Rest Nat)
  | fuel + 1, value, c :: t =>
      if c = '}' then
        match value with
        | some n => .ok (n, skip verbose t)
        | none => .error .hexEmpty
      else match hexValue? c with
        | some d => readHexBraced verbose fuel (some (value.getD 0 * 16 + d)) (skip verbose t)
        | none => .error .hexDigitInvalid
  | _, _, _ => .error .escapeUnfinished

/-- A hexadecimal escape, from behind its letter, which tells the number of
digits of the form without braces. -/
def readHex (verbose : Bool) (digits : Nat) (t : Text) : Except Fault (Rest Literal) := do
  let (n, asByte, t) ← match skip verbose t with
    | [] => throw .escapeUnfinished
    | '{' :: t => do
        let t := skip verbose t
        let (n, t) ← readHexBraced verbose (t.length + 1) none t
        pure (n, false, t)
    | t => do
        let (n, t) ← readHexDigits verbose digits 0 t
        pure (n, digits = 2, t)
  match charOf? n with
  | some c => return ({ char := c, asByte }, t)
  | none => throw .hexNoCharacter

/-! ## Escapes -/

/-- The characters up to a closing brace, without what is ignored. -/
def readBraced (verbose : Bool) : (fuel : Nat) → Text → Option (Text × Text)
  | fuel + 1, c :: t =>
      if c = '}' then some ([], t)
      else (readBraced verbose fuel (skip verbose t)).map fun (name, t) => (c :: name, t)
  | _, _ => none

/-- The text before the first occurrence of a mark and the text after. -/
def splitOnce? (mark : Text) : Text → Option (Text × Text)
  | [] => none
  | c :: t =>
      match Text.after? mark (c :: t) with
      | some rest => some ([], rest)
      | none => (splitOnce? mark t).map fun (a, b) => (c :: a, b)

/-- The name of a property, in one of its spellings, and whether the
spelling negates it. -/
def propertyName (name : Text) : PropertyName × Bool :=
  match splitOnce? ['!', '='] name with
  | some (n, v) => (.valued n v, true)
  | none =>
      match (splitOnce? [':'] name).or (splitOnce? ['='] name) with
      | some (n, v) => (.valued n v, false)
      | none => (.single name, false)

/-- A property class, from behind its letter. -/
def readProperty (verbose negated : Bool) (t : Text) : Except Fault (Rest Atom) :=
  match skip verbose t with
  | [] => .error .escapeUnfinished
  | '{' :: t =>
      let t := skip verbose t
      match readBraced verbose (t.length + 1) t with
      | none => .error .escapeUnfinished
      | some (name, t) =>
          let (n, flipped) := propertyName name
          .ok (.property n (negated != flipped), t)
  | c :: t =>
      if c = '\\' then .error .propertyInvalid
      else .ok (.property (.single [c]) negated, skip verbose t)

/-- Can the character be part of the name of a test between braces? -/
def isTestNameChar (c : Char) : Bool :=
  c.isAlpha || c = '-'

/-- The name of a test between braces and what follows it. -/
def readTestName (verbose : Bool) : (fuel : Nat) → Text → Text × Text
  | fuel + 1, c :: t =>
      if isTestNameChar c then
        let (name, t) := readTestName verbose fuel (skip verbose t)
        (c :: name, t)
      else ([], c :: t)
  | _, t => ([], t)

/-- What follows the escape `b`: the name of a special test in braces,
unless what the braces hold is a count. -/
def readWordEdge (verbose : Bool) (t : Text) : Except Fault (Rest Atom) :=
  match t with
  | '{' :: rest =>
      match skip verbose rest with
      | [] => .error .wordTestUnclosed
      | c :: u =>
          if !isTestNameChar c then .ok (.assertion .wordEdge, t)
          else match readTestName verbose (u.length + 1) (c :: u) with
            | (name, '}' :: t) =>
                match String.ofList name with
                | "start" => .ok (.assertion .wordStart, t)
                | "end" => .ok (.assertion .wordEnd, t)
                | "start-half" => .ok (.assertion .noWordBefore, t)
                | "end-half" => .ok (.assertion .noWordAfter, t)
                | _ => .error .wordTestUnknown
            | _ => .error .wordTestUnclosed
  | _ => .ok (.assertion .wordEdge, t)

/-- Does the character stand for itself behind a backslash? -/
def isEscapable (c : Char) : Bool :=
  c.toNat < 128 && !c.isAlphanum && c ≠ '<' && c ≠ '>'

/-- A character that stands for itself. -/
def plain (c : Char) : Atom :=
  .literal { char := c, asByte := false }

/-- An escape, from behind its backslash. -/
def readEscape (verbose : Bool) : Text → Except Fault (Rest Atom)
  | [] => .error .escapeUnfinished
  | c :: t =>
      if c.isDigit then .error .backreference
      else if isEscapable c then .ok (plain c, t)
      else match c with
        | 'x' => do let (l, t) ← readHex verbose 2 t; return (.literal l, t)
        | 'u' => do let (l, t) ← readHex verbose 4 t; return (.literal l, t)
        | 'U' => do let (l, t) ← readHex verbose 8 t; return (.literal l, t)
        | 'p' => readProperty verbose false t
        | 'P' => readProperty verbose true t
        | 'd' => .ok (.letter .digit false, t)
        | 'D' => .ok (.letter .digit true, t)
        | 's' => .ok (.letter .blank false, t)
        | 'S' => .ok (.letter .blank true, t)
        | 'w' => .ok (.letter .word false, t)
        | 'W' => .ok (.letter .word true, t)
        | 'a' => .ok (plain '\x07', t)
        | 'f' => .ok (plain '\x0c', t)
        | 't' => .ok (plain '\t', t)
        | 'n' => .ok (plain '\n', t)
        | 'r' => .ok (plain '\r', t)
        | 'v' => .ok (plain '\x0b', t)
        | 'A' => .ok (.assertion .textStart, t)
        | 'z' => .ok (.assertion .textEnd, t)
        | 'b' => readWordEdge verbose t
        | 'B' => .ok (.assertion .noWordEdge, t)
        | '<' => .ok (.assertion .wordStart, t)
        | '>' => .ok (.assertion .wordEnd, t)
        | _ => .error .escapeUnknown

/-! ## Character classes -/

/-- A class name between `[:` and `:]`, from behind the bracket. -/
def bracketName? (t : Text) : Option (ClassSet × Text) := do
  let t ← Text.after? [':'] t
  let (negated, t) := match t with
    | '^' :: t => (true, t)
    | t => (false, t)
  let name := String.ofList (t.takeWhile (· ≠ ':'))
  let rest ← Text.after? [':', ']'] (t.dropWhile (· ≠ ':'))
  let known := ["alnum", "alpha", "ascii", "blank", "cntrl", "digit", "graph", "lower",
    "print", "punct", "space", "upper", "word", "xdigit"]
  if known.contains name then some (.named name negated, rest) else none

/-- One character or escape in a class. -/
def readClassAtom (verbose : Bool) : Text → Except Fault (Rest Atom)
  | [] => .error .classUnclosed
  | '\\' :: t => readEscape verbose t
  | c :: t => .ok (plain c, t)

/-- An atom as an item of a class. -/
def Atom.classItem : Atom → Except Fault ClassSet
  | .literal l => .ok (.literal l)
  | .letter k n => .ok (.letter k n)
  | .property p n => .ok (.property p n)
  | .assertion _ => .error .classEscape

/-- An atom as an end of a range. -/
def Atom.rangeEnd : Atom → Except Fault Literal
  | .literal l => .ok l
  | _ => .error .classRangeEnd

/-- A character, an escape or a range in a class. -/
def readClassRange (verbose : Bool) (t : Text) : Except Fault (Rest ClassSet) := do
  let (first, t) ← readClassAtom verbose t
  match skip verbose t with
  | [] => throw .classUnclosed
  | '-' :: rest =>
      let next := peek? verbose rest
      if next = some ']' || next = some '-' then
        return (← first.classItem, '-' :: rest)
      let (last, t) ← readClassAtom verbose (skip verbose rest)
      let a ← first.rangeEnd
      let b ← last.rangeEnd
      if a.char ≤ b.char then return (.range a b, t) else throw .classRangeReversed
  | t => return (← first.classItem, t)

/-- Hyphens at the start of a class stand for themselves. -/
def readHyphens (verbose : Bool) : (fuel : Nat) → Text → List ClassSet × Text
  | fuel + 1, '-' :: t =>
      let (items, t) := readHyphens verbose fuel (skip verbose t)
      (.literal ⟨'-', false⟩ :: items, t)
  | _, t => ([], t)

/-- The start of a class, from behind its bracket: whether it is negated,
and the items that only the start of a class can hold. -/
def readClassStart (verbose : Bool) (t : Text) : Except Fault (Rest (Bool × List ClassSet)) := do
  let (negated, t) := match skip verbose t with
    | '^' :: t => (true, skip verbose t)
    | t => (false, t)
  match readHyphens verbose t.length t with
  | (_, []) => throw .classUnclosed
  | ([], ']' :: t) =>
      match skip verbose t with
      | [] => throw .classUnclosed
      | t => return ((negated, [.literal ⟨']', false⟩]), t)
  | (items, t) => return ((negated, items), t)

/-- An operator between sets, at the start of a text. -/
def setOp? : Text → Option (SetOp × Text)
  | '&' :: '&' :: t => some (.inter, t)
  | '-' :: '-' :: t => some (.diff, t)
  | '~' :: '~' :: t => some (.symmDiff, t)
  | _ => none

/-- The set to the left of the end of an operand: the pending operator
applied to the items read since. -/
def applyPending (pending : Option (SetOp × ClassSet)) (items : List ClassSet) : ClassSet :=
  match pending with
  | none => .ofItems items
  | some (op, left) => .op op left (.ofItems items)

/-- The rest of a class up to its closing bracket, after the items already
read, the last first. -/
def readClassItems (verbose : Bool) : (fuel : Nat) → (negated : Bool) →
    (pending : Option (SetOp × ClassSet)) → (items : List ClassSet) → Text → Except Fault (Rest ClassSet)
  | 0, _, _, _, _ => .error .classUnclosed
  | fuel + 1, negated, pending, items, t =>
      match skip verbose t with
      | [] => .error .classUnclosed
      | '[' :: t =>
          match bracketName? t with
          | some (item, t) => readClassItems verbose fuel negated pending (item :: items) t
          | none => do
              let ((inner, start), t) ← readClassStart verbose t
              let (item, t) ← readClassItems verbose fuel inner none start.reverse t
              readClassItems verbose fuel negated pending (item :: items) t
      | ']' :: t => .ok (.bracket negated (applyPending pending items), t)
      | t =>
          match setOp? t with
          | some (op, t) =>
              readClassItems verbose fuel negated (some (op, applyPending pending items)) [] t
          | none => do
              let (item, t) ← readClassRange verbose t
              readClassItems verbose fuel negated pending (item :: items) t

/-- A class, from behind its opening bracket. -/
def readClass (verbose : Bool) (t : Text) : Except Fault (Rest ClassSet) := do
  let ((negated, start), t) ← readClassStart verbose t
  readClassItems verbose (t.length + 1) negated none start.reverse t

/-! ## Groups and flags -/

/-- The flag of a letter. -/
def flag? : Char → Option Flag
  | 'i' => some .ignoreCase
  | 'm' => some .multiLine
  | 's' => some .dotAll
  | 'U' => some .swapGreed
  | 'u' => some .unicode
  | 'R' => some .anyBreak
  | 'x' => some .verbose
  | _ => none

/-- Flag letters up to a colon or a closing parenthesis, which is left in
place.  `on` is false behind the hyphen, and `dangling` says that nothing
follows the hyphen yet. -/
def readFlags : (seen : FlagChanges) → (on dangling : Bool) → Text → Except Fault (Rest FlagChanges)
  | _, _, _, [] => .error .flagUnfinished
  | seen, on, dangling, c :: t =>
      if c = ':' || c = ')' then
        if dangling then .error .flagDangling else .ok (seen.reverse, c :: t)
      else if c = '-' then
        if on then readFlags seen false true t else .error .flagDuplicate
      else match flag? c with
        | none => .error .flagUnknown
        | some f =>
            if seen.any (·.1 = f) then .error .flagDuplicate
            else readFlags ((f, on) :: seen) on false t

/-- Can the character be in the name of a group? -/
def isNameChar (first : Bool) (c : Char) : Bool :=
  if c = '_' then true
  else
    let alphabetic := if c.toNat < 128 then c.isAlpha else BinaryProperty.alphabetic.holds c
    if first then alphabetic
    else alphabetic || c = '.' || c = '[' || c = ']' ||
      (if c.toNat < 128 then c.isDigit else [Category.nd, .nl, .no].contains (category c))

/-- The name of a group, up to the closing angle bracket. -/
def readGroupName (names : List Text) (t : Text) : Except Fault (Rest Text) :=
  let name := t.takeWhile (· ≠ '>')
  match t.dropWhile (· ≠ '>') with
  | [] => .error .groupNameInvalid
  | _ :: rest =>
      match name with
      | [] => .error .groupNameInvalid
      | c :: cs =>
          if !(isNameChar true c && cs.all (isNameChar false)) then .error .groupNameInvalid
          else if names.contains name then .error .groupNameDuplicate
          else .ok (name, rest)

/-- What an opening parenthesis starts. -/
inductive Opened where
  | flags (fs : FlagChanges)
  | group (fs : FlagChanges)
  | named (name : Text)

/-- What follows an opening parenthesis. -/
def readOpened (verbose : Bool) (names : List Text) (t : Text) : Except Fault (Rest Opened) :=
  match skip verbose t with
  | '?' :: '=' :: _ => .error .lookAround
  | '?' :: '!' :: _ => .error .lookAround
  | '?' :: '<' :: '=' :: _ => .error .lookAround
  | '?' :: '<' :: '!' :: _ => .error .lookAround
  | '?' :: 'P' :: '<' :: t => do
      let (name, t) ← readGroupName names t
      return (.named name, t)
  | '?' :: '<' :: t => do
      let (name, t) ← readGroupName names t
      return (.named name, t)
  | ['?'] => .error .groupUnclosed
  | '?' :: t => do
      match ← readFlags [] true false t with
      | ([], ')' :: _) => throw .repetitionMissing
      | (fs, ')' :: t) => return (.flags fs, t)
      | (fs, t) => return (.group fs, t.drop 1)
  | t => .ok (.group [], t)

/-! ## The whole pattern -/

/-- What surrounds an open group: the parts of the branch it stands in and
the branches before that, both the last first, the flags the group sets,
and the notation outside of it. -/
structure Frame where
  parts : List Ast
  branches : List Ast
  flags : FlagChanges
  verbose : Bool

/-- How far a pattern has been read. -/
structure Progress where
  parts : List Ast
  branches : List Ast
  outer : List Frame
  verbose : Bool
  names : List Text

namespace Progress

/-- Adds a part to the current branch. -/
def push (p : Progress) (a : Ast) : Progress :=
  { p with parts := a :: p.parts }

/-- The tree of the innermost open group. -/
def tree (p : Progress) : Ast :=
  .ofBranches (.ofParts p.parts :: p.branches)

/-- Ends the current branch. -/
def endBranch (p : Progress) : Progress :=
  { p with parts := [], branches := .ofParts p.parts :: p.branches }

/-- Opens a group. -/
def openGroup (p : Progress) (fs : FlagChanges) : Progress :=
  { p with
    parts := []
    branches := []
    outer := ⟨p.parts, p.branches, fs, p.verbose⟩ :: p.outer
    verbose := (fs.value? .verbose).getD p.verbose }

/-- Closes the innermost group. -/
def closeGroup? (p : Progress) : Option Progress :=
  match p.outer with
  | [] => none
  | f :: outer =>
      some { p with
        parts := .group f.flags p.tree :: f.parts
        branches := f.branches
        outer
        verbose := f.verbose }

/-- Repeats the last part, which has to be there and to match
something. -/
def repeatLast (p : Progress) (least : Nat) (most : Option Nat) : Except Fault Progress :=
  match p.parts with
  | [] | .empty :: _ | .flags _ :: _ => .error .repetitionMissing
  | a :: parts => .ok { p with parts := .rep a least most :: parts }

end Progress

/-- A mark that asks for short matches, which decides nothing here. -/
def skipLazy : Text → Text
  | '?' :: t => t
  | t => t

/-- A counted repetition, from behind its opening brace. -/
def readRange (verbose : Bool) (t : Text) : Except Fault (Rest (Nat × Option Nat)) := do
  let t := skip verbose t
  if t.isEmpty then throw .countUnclosed
  let (least, t) := readCount verbose t
  let ((a, b), t) ← match t with
    | [] => throw .countUnclosed
    | ',' :: t =>
        match skip verbose t with
        | [] => throw .countUnclosed
        | '}' :: t => do pure ((← least, none), '}' :: t)
        | t => do
            let a ← least
            let (most, t) := readCount verbose t
            pure ((a, some (← most)), t)
    | t => do
        let a ← least
        pure ((a, some a), t)
  match t with
  | '}' :: t =>
      if (b.map (decide <| a ≤ ·)).getD true then return ((a, b), skipLazy (skip verbose t))
      else throw .countReversed
  | _ => throw .countUnclosed

/-- Reads one part of the pattern that starts with the character `c`. -/
def readPart (p : Progress) (c : Char) (t : Text) : Except Fault (Rest Progress) :=
  match c with
  | '(' => do
      match ← readOpened p.verbose p.names t with
      | (.flags fs, t) =>
          return ({ p.push (.flags fs) with
            verbose := (fs.value? .verbose).getD p.verbose }, t)
      | (.group fs, t) => return (p.openGroup fs, t)
      | (.named name, t) => return ({ p.openGroup [] with names := name :: p.names }, t)
  | ')' =>
      match p.closeGroup? with
      | some p => .ok (p, t)
      | none => .error .groupUnopened
  | '|' => .ok (p.endBranch, t)
  | '[' => do
      let (s, t) ← readClass p.verbose t
      return (p.push (.set s), t)
  | '?' => do return (← p.repeatLast 0 (some 1), skipLazy t)
  | '*' => do return (← p.repeatLast 0 none, skipLazy t)
  | '+' => do return (← p.repeatLast 1 none, skipLazy t)
  | '{' => do
      let _ ← p.repeatLast 0 none
      let ((least, most), t) ← readRange p.verbose t
      return (← p.repeatLast least most, t)
  | '\\' => do
      let (a, t) ← readEscape p.verbose t
      return (p.push (.ofAtom a), t)
  | '.' => .ok (p.push .dot, t)
  | '^' => .ok (p.push (.assertion .caret), t)
  | '$' => .ok (p.push (.assertion .dollar), t)
  | c => .ok (p.push (.ofAtom (plain c)), t)

/-- Reads a pattern to its end. -/
def readParts : (fuel : Nat) → Progress → Text → Except Fault Ast
  | fuel, p, t =>
      match skip p.verbose t with
      | [] => if p.outer.isEmpty then .ok p.tree else .error .groupUnclosed
      | c :: t =>
          match fuel with
          | 0 => .error .groupUnclosed
          | fuel + 1 => do
              let (p, t) ← readPart p c t
              readParts fuel p t

/-- How deep a pattern may be nested. -/
def maxDepth : Nat := 250

/-- The tree of a pattern. -/
def Ast.read (t : Text) : Except Fault Ast := do
  let a ← readParts t.length ⟨[], [], [], false, []⟩ t
  if a.depth .none ≤ maxDepth then return a else throw .nestedTooDeeply

end HeaderCheck.Regex
