/-
# Paths

A path keeps the spelling it was given, since that is what reports print.
Two paths are the same, and one comes before the other, by their
components: repeated slashes and inner dots do not count, a leading `./`
does.  So `a//b` is `a/b`, and `./a` is not `a` and comes before it.
-/
import HeaderCheck.Text.Basic

namespace HeaderCheck

/-- A path as it is spelled. -/
structure Path where
  spelling : Text
deriving DecidableEq, Repr

/-- The components of a path, in the order in which they compare. -/
inductive Component where
  | root
  | here
  | parent
  | name (n : Text)
deriving DecidableEq, Repr

/-- The order of texts, character by character. -/
def Text.compare : Text → Text → Ordering
  | [], [] => .eq
  | [], _ :: _ => .lt
  | _ :: _, [] => .gt
  | c :: s, d :: t =>
      if c.toNat < d.toNat then .lt else if d.toNat < c.toNat then .gt else compare s t

namespace Component

/-- The rank of a kind of component. -/
def rank : Component → Nat
  | root => 0
  | here => 1
  | parent => 2
  | name _ => 3

/-- The order of components. -/
def compare : Component → Component → Ordering
  | name a, name b => a.compare b
  | a, b => if a.rank < b.rank then .lt else if b.rank < a.rank then .gt else .eq

/-- The order of lists of components. -/
def compareAll : List Component → List Component → Ordering
  | [], [] => .eq
  | [], _ :: _ => .lt
  | _ :: _, [] => .gt
  | a :: s, b :: t =>
      match a.compare b with
      | .eq => compareAll s t
      | o => o

/-- The component that a piece between slashes stands for. -/
def ofPiece (piece : Text) : Component :=
  if piece = ['.', '.'] then parent else name piece

end Component

namespace Path

/-- The path with a given spelling. -/
def ofString (s : String) : Path :=
  ⟨s.toList⟩

/-- The pieces between slashes. -/
def pieces (p : Path) : List Text :=
  p.spelling.splitOn '/'

/-- A piece that adds nothing behind another one. -/
def isIdle (piece : Text) : Bool :=
  piece = [] || piece = ['.']

/-- The components of a path. -/
def components (p : Path) : List Component :=
  match p.pieces with
  | [] => []
  | first :: rest =>
      let body := (rest.filter (!isIdle ·)).map .ofPiece
      if first = [] then (if rest = [] then [] else .root :: body)
      else if first = ['.'] then .here :: body
      else .ofPiece first :: body

/-- The order of paths. -/
def compare (p q : Path) : Ordering :=
  Component.compareAll p.components q.components

/-- Is a path at or before another one? -/
def le (p q : Path) : Bool :=
  p.compare q ≠ .gt

/-- Do two spellings mean the same path? -/
def same (p q : Path) : Bool :=
  p.components = q.components

/-- The last component, if it is a name. -/
def fileName? (p : Path) : Option Text :=
  match p.components.getLast? with
  | some (.name n) => some n
  | _ => none

/-- What follows the last dot of a name that does not start with it. -/
def nameExtension? (name : Text) : Option Text :=
  match name.reverse.dropWhile (· ≠ '.') with
  | [] => none
  | [_] => none
  | _ => some (name.reverse.takeWhile (· ≠ '.')).reverse

/-- The extension of the file name. -/
def extension? (p : Path) : Option Text :=
  p.fileName?.bind nameExtension?

/-- The pieces without idle ones at the end. -/
def trimEnd (pieces : List Text) : List Text :=
  (pieces.reverse.dropWhile isIdle).reverse

/-- The directory part of a path whose last component is a name. -/
def directory (p : Path) : Path :=
  match p.pieces with
  | [] => ⟨[]⟩
  | first :: rest =>
      match trimEnd rest with
      | [] => ⟨[]⟩
      | rest =>
          match first, trimEnd rest.dropLast with
          | [], [] => ⟨['/']⟩
          | _, above => ⟨['/'].intercalate (first :: above)⟩

/-- The path of a name in a directory. -/
def join (p : Path) (name : Text) : Path :=
  if p.spelling = [] then ⟨name⟩
  else if p.spelling.getLast? = some '/' then ⟨p.spelling ++ name⟩
  else ⟨p.spelling ++ '/' :: name⟩

/-- The spelling with forward slashes only. -/
def slashed (p : Path) : Text :=
  p.spelling.replaceChar '\\' '/'

/-- The spelling that exclusions are matched against: forward slashes, and
one leading `./` taken off. -/
def normalized (p : Path) : Text :=
  (Text.after? ['.', '/'] p.slashed).getD p.slashed

end Path

end HeaderCheck
