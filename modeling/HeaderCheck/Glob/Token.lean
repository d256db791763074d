/-
# Globs

A glob is a list of tokens.  `*` and `?` stand for any bytes, slashes
included; `**` between slashes or at an end of the glob stands for any
number of directories; a class holds the bytes of its characters; braces
hold alternatives, which may nest.

Two stars that are not between slashes are two single stars.  Where they
are, the token takes the slashes with it: the prefix form the one behind,
the inner form both, the suffix form the one in front.
-/
import HeaderCheck.Text.Basic

namespace HeaderCheck.Glob

/-- The tokens of a glob. -/
inductive Token where
  | literal (c : Char)
  | any
  | anyText
  | directoriesFirst
  | directoriesLast
  | directoriesWithin
  | cls (negated : Bool) (ranges : List (Char × Char))
  | alternatives (branches : List (List Token))
deriving Repr

/-- What can be wrong with a glob. -/
inductive Fault where
  | classUnclosed
  | rangeReversed (first last : Char)
  | alternativesUnopened
  | alternativesUnclosed
  | danglingEscape
deriving DecidableEq, Repr

/-- The wording of a cause. -/
def Fault.message : Fault → String
  | classUnclosed => "unclosed character class; missing ']'"
  | rangeReversed a b =>
      "invalid range; '" ++ String.singleton a ++ "' > '" ++ String.singleton b ++ "'"
  | alternativesUnopened =>
      "unopened alternate group; missing '\x7b' (maybe escape '\x7d' with '[\x7d]'?)"
  | alternativesUnclosed =>
      "unclosed alternate group; missing '\x7d' (maybe escape '\x7b' with '[\x7b]'?)"
  | danglingEscape => "dangling '\\'"

/-! ## Reading -/

/-- An open pair of braces: the branch it stands in and the alternatives
before the current one, the last first, each with its last token first. -/
structure Frame where
  outside : List Token
  before : List (List Token)

/-- How far a glob has been read: the current branch, the last token
first, the open braces, and the character before the current one. -/
structure Progress where
  branch : List Token
  frames : List Frame
  previous : Option Char

/-- Adds a token to the current branch. -/
def Progress.push (p : Progress) (t : Token) : Progress :=
  { p with branch := t :: p.branch }

/-- The class items read so far, the last first, with `last` added behind
a hyphen as the end of the last range. -/
def endRange (last : Char) : List (Char × Char) → Except Fault (List (Char × Char))
  | [] => .ok [(last, last)]
  | (a, _) :: rs => if a ≤ last then .ok ((a, last) :: rs) else .error (.rangeReversed a last)

/-- The rest of a class up to its closing bracket.  `first` says that
nothing has been read yet, `open` that a hyphen waits for the end of a
range. -/
def readClass : (first opened : Bool) → List (Char × Char) → Text →
    Except Fault (List (Char × Char) × Text)
  | _, _, _, [] => .error .classUnclosed
  | first, opened, rs, c :: t =>
      if c = ']' && !first then
        .ok ((if opened then ('-', '-') :: rs else rs).reverse, t)
      else if opened then do readClass false false (← endRange c rs) t
      else if c = '-' && !first then readClass false true rs t
      else readClass false false ((c, c) :: rs) t

/-- Where `**` stands, judged by what surrounds it; `none` where it is two
single stars. -/
def starsToken? (p : Progress) (rest : Text) : Option (Token × Text × Bool) :=
  let ends := match rest with
    | [] => some rest
    | '/' :: t => some t
    | _ => none
  if p.branch.isEmpty then ends.map fun t => (.directoriesFirst, t, false)
  else
    let afterMark := !p.frames.isEmpty && (p.previous = some ',' || p.previous = some '{')
    if p.previous ≠ some '/' && !afterMark then none
    else match rest with
      | [] => some (.directoriesLast, rest, true)
      | '/' :: t => some (.directoriesWithin, t, true)
      | c :: _ =>
          if (c = ',' || c = '}') && !p.frames.isEmpty then some (.directoriesLast, rest, true)
          else none

/-- Puts the token of `**` in place of the slash before it.  Behind another
such token it adds nothing. -/
def replaceLast (t : Token) : List Token → List Token
  | [] => [t]
  | .directoriesFirst :: ts => .directoriesFirst :: ts
  | .directoriesLast :: ts => .directoriesLast :: ts
  | _ :: ts => t :: ts

/-- The tokens of a glob.  Each step consumes a character, so `fuel` is
the number of characters. -/
def read : (fuel : Nat) → Progress → Text → Except Fault (List Token)
  | _, p, [] => if p.frames.isEmpty then .ok p.branch.reverse else .error .alternativesUnclosed
  | 0, p, _ => .ok p.branch.reverse
  | fuel + 1, p, c :: t =>
      let next := { p with previous := some c }
      match c, t with
      | '?', t => read fuel (next.push .any) t
      | '*', '*' :: rest =>
          match starsToken? p rest with
          | none => read fuel ({ next with branch := .anyText :: .anyText :: p.branch }) rest
          | some (token, u, inPlace) =>
              let branch := if inPlace then replaceLast token p.branch else token :: p.branch
              let previous := if u.length < rest.length then '/' else '*'
              read fuel { p with branch, previous := some previous } u
      | '*', t => read fuel (next.push .anyText) t
      | '[', t => do
          let (negated, u) := match t with
            | '!' :: u => (true, u)
            | '^' :: u => (true, u)
            | u => (false, u)
          let (ranges, u) ← readClass true false [] u
          read fuel ({ p with previous := some ']' }.push (.cls negated ranges)) u
      | '{', t =>
          read fuel { next with branch := [], frames := ⟨p.branch, []⟩ :: p.frames } t
      | '}', t =>
          match p.frames with
          | [] => .error .alternativesUnopened
          | f :: frames =>
              let branches := (p.branch :: f.before).map List.reverse
              read fuel { next with branch := .alternatives branches :: f.outside, frames } t
      | ',', t =>
          match p.frames with
          | [] => read fuel (next.push (.literal ',')) t
          | f :: frames =>
              read fuel
                { next with
                  branch := []
                  frames := { f with before := p.branch :: f.before } :: frames } t
      | '\\', [] => .error .danglingEscape
      | '\\', d :: u => read fuel ({ p with previous := some d }.push (.literal d)) u
      | c, t => read fuel (next.push (.literal c)) t

end HeaderCheck.Glob
