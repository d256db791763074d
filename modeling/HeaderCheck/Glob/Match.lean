/-
# What a glob matches

Globs match byte by byte, so that `?` stands for one byte of the UTF-8 form
of a path and not for one of its characters.  A glob is matched as a regular
expression over bytes, each byte taken as the character with its number.

One case is not the regular expression's.  A glob that ends in a literal
name behind `**/`, or in a literal extension, asks for a file name, and `..`
is none.
-/
import HeaderCheck.Glob.Token
import HeaderCheck.Regex.Expr

namespace HeaderCheck

open Regex

/-- The bytes of a text, each as the character with its number. -/
def Text.bytes (t : Text) : Text :=
  t.flatMap fun c => (String.utf8EncodeChar c).map fun b => Char.ofNat b.toNat

namespace Glob

/-- Any one byte. -/
def anyByte : Expr := .char .all

/-- Any bytes. -/
def anyBytes : Expr := .rep anyByte 0 none

/-- Certain bytes in a row. -/
def bytes : Text → Expr
  | [] => .empty
  | c :: t => t.foldl (fun r d => .seq r (.char (.char d))) (.char (.char c))

/-- The bytes of a class: those of the characters it lists, and for a range
those between the last byte of its first character and the first byte of
its last. -/
def rangeSet (r : Char × Char) : CharSet :=
  let a := Text.bytes [r.1]
  let b := Text.bytes [r.2]
  let single (t : Text) := CharSet.ofRanges (t.map fun c => (c.toNat, c.toNat))
  if r.1 = r.2 then single a
  else
    let low := (a.getLast?.map Char.toNat).getD 0
    let high := (b.head?.map Char.toNat).getD 0
    .union (single a.dropLast) (.union (.range low high) (single (b.drop 1)))

/-- The bytes of a class. -/
def classSet (negated : Bool) (rs : List (Char × Char)) : CharSet :=
  let s := rs.foldr (fun r s => .union (rangeSet r) s) .none
  if negated then .compl s else s

/-- A choice between expressions. -/
def choice : List Expr → Expr
  | [] => .empty
  | [r] => r
  | r :: rs => .alt r (choice rs)

/-- A sequence of expressions. -/
def sequence : List Expr → Expr
  | [] => .empty
  | [r] => r
  | r :: rs => .seq r (sequence rs)

mutual

/-- The expression of a token; `none` for alternatives that are all
empty. -/
def Token.expr? : Token → Option Expr
  | .literal c => some (bytes (Text.bytes [c]))
  | .any => some anyByte
  | .anyText => some anyBytes
  | .directoriesFirst =>
      some (.alt (.rep (bytes ['/']) 0 (some 1)) (.seq anyBytes (bytes ['/'])))
  | .directoriesLast => some (.seq (bytes ['/']) anyBytes)
  | .directoriesWithin =>
      some (.alt (bytes ['/']) (.seq (bytes ['/']) (.seq anyBytes (bytes ['/']))))
  | .cls negated rs => some (.char (classSet negated rs))
  | .alternatives branches =>
      match branchExprs branches with
      | [] => none
      | rs => some (choice rs)

/-- The expressions of the tokens in a row. -/
def tokenExprs : List Token → List Expr
  | [] => []
  | t :: ts =>
      match t.expr? with
      | some r => r :: tokenExprs ts
      | none => tokenExprs ts

/-- The expressions of the alternatives that are not empty. -/
def branchExprs : List (List Token) → List Expr
  | [] => []
  | ts :: bs =>
      match tokenExprs ts with
      | [] => branchExprs bs
      | rs => sequence rs :: branchExprs bs

end

/-- The expression of a whole glob.  Two stars alone match everything. -/
def wholeExpr (ts : List Token) : Expr :=
  match ts with
  | [.directoriesFirst] => .empty
  | ts => .seq (.test .textStart) (.seq (sequence (tokenExprs ts)) (.test .textEnd))

/-! ## Globs that ask for a file name -/

/-- The character of a literal token. -/
def Token.char? : Token → Option Char
  | .literal c => some c
  | _ => none

/-- Is it a literal name behind `**/`? -/
def isNameOnly : List Token → Bool
  | .directoriesFirst :: t :: ts =>
      (t :: ts).all fun t => match t.char? with
        | some c => c ≠ '/'
        | none => false
  | _ => false

/-- Is it a star and a literal extension? -/
def isExtensionOnly (ts : List Token) : Bool :=
  let ts := match ts with
    | .directoriesFirst :: ts => ts
    | ts => ts
  match ts with
  | .anyText :: .literal '.' :: ts =>
      ts.all fun t => match t.char? with
        | some c => c ≠ '.' && c ≠ '/'
        | none => false
  | _ => false

/-- Does it end in a literal extension, read from the end? -/
def endsInExtension : List Token → Bool
  | [] => false
  | t :: ts =>
      match t.char? with
      | some '.' => true
      | some '/' => false
      | some _ => endsInExtension ts
      | none => false

/-- Is it literal behind an optional `**/` and an optional star?  The end
of the path decides then, whatever its last component is. -/
def isLiteralEnding (ts : List Token) : Bool :=
  let ts := match ts with
    | .directoriesFirst :: ts => ts
    | ts => ts
  let ts := match ts with
    | .anyText :: ts => ts
    | ts => ts
  ts.all (·.char?.isSome)

/-- Does the glob ask for a file name? -/
def asksForName (ts : List Token) : Bool :=
  isNameOnly ts || isExtensionOnly ts ||
    (!isLiteralEnding ts && endsInExtension ts.reverse)

/-- The part of a path behind the last slash. -/
def lastPiece (path : Text) : Text :=
  (path.reverse.takeWhile (· ≠ '/')).reverse

end Glob

/-- A glob that can be matched. -/
structure Glob where
  tokens : List Glob.Token
  expr : Regex.Expr

namespace Glob

/-- Reads a glob. -/
def ofText (t : Text) : Except Fault Glob := do
  let tokens ← read t.length ⟨[], [], none⟩ t
  return { tokens, expr := wholeExpr tokens }

/-- Does a glob match a path? -/
def accepts (g : Glob) (path : Text) : Bool :=
  !(asksForName g.tokens && lastPiece path = ['.', '.']) && g.expr.search path.bytes

end Glob

end HeaderCheck
