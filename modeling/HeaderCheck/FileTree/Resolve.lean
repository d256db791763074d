/-
# From paths to places

A path leads through the tree name by name.  Whatever a name leads on from
has to be a directory, links on the way are followed, and the entry that
the last name finds may be missing, which is for the operation to judge.
At most 40 links are followed.

A slash at the end asks for a directory, as if a dot followed it.
-/
import HeaderCheck.FileTree.Basic

namespace HeaderCheck.FileTree

/-- Where a path leads: to an entry, or to a name that a directory does not
have. -/
inductive Target where
  | found (l : Location) (e : Entry)
  | absent (l : Location)

/-- The longest name of an entry, in bytes. -/
def maxNameWidth : Nat := 255

/-- The longest path, in bytes. -/
def maxPathWidth : Nat := 4095

/-- The number of links that one path may lead through. -/
def maxLinks : Nat := 40

/-- The names of a path, with a dot for a slash at the end. -/
def steps (path : Text) : List Text :=
  (path.splitOn '/').filter (· ≠ []) ++ (if path.getLast? = some '/' then [['.']] else [])

/-- Follows names from a directory.  `follow` says whether a link that the
last name finds is followed. -/
def walk (t : FileTree) (follow : Bool) (links : Nat) (l : Location) :
    List Text → Except Fault Target
  | [] => .ok (.found l .directory)
  | name :: rest =>
      if name = ['.'] then t.walk follow links l rest
      else if name = ['.', '.'] then t.walk follow links l.dropLast rest
      else if maxNameWidth < name.width then .error .nameTooLong
      else
        match t.at? (l ++ [name]) with
        | none => if rest = [] then .ok (.absent (l ++ [name])) else .error .notFound
        | some .directory => t.walk follow links (l ++ [name]) rest
        | some (.file content) =>
            if rest = [] then .ok (.found (l ++ [name]) (.file content))
            else .error .notDirectory
        | some (.link target) =>
            if rest = [] && !follow then .ok (.found (l ++ [name]) (.link target))
            else
              match links with
              | 0 => .error .tooManyLinks
              | n + 1 =>
                  t.walk follow n (if target.head? = some '/' then [] else l)
                    (steps target ++ rest)
termination_by names => (links, names.length)

/-- The directory from which a path starts. -/
def origin (t : FileTree) (path : Text) : Location :=
  if path.head? = some '/' then [] else t.current

/-- Refuses paths that no tree has: those with the null character, the
empty one, and too long ones. -/
def checkPath (path : Text) : Except Fault Unit :=
  if path.contains '\x00' then .error .nameInvalid
  else if path = [] then .error .notFound
  else if maxPathWidth < path.width then .error .nameTooLong
  else .ok ()

/-- Where a path leads, all links followed. -/
def resolve (t : FileTree) (p : Path) : Except Fault Target := do
  checkPath p.spelling
  t.walk true maxLinks (t.origin p.spelling) (steps p.spelling)

/-- The place of a path's last name, which is neither looked up nor
followed, and whether a slash follows it.  A path that ends in a dot or two
or consists of slashes names no entry of a directory. -/
def resolveName (t : FileTree) (p : Path) : Except Fault (Location × Bool) := do
  checkPath p.spelling
  let slash := p.spelling.getLast? = some '/'
  let names := (p.spelling.splitOn '/').filter (· ≠ [])
  match ← t.walk true maxLinks (t.origin p.spelling) names.dropLast with
  | .absent _ => throw .notFound
  | .found _ (.file _) => throw .notDirectory
  | .found _ (.link _) => throw .notDirectory
  | .found l .directory =>
      match names.getLast? with
      | none => throw .busy
      | some name =>
          if name = ['.'] || name = ['.', '.'] then throw .busy
          else if maxNameWidth < Text.width name then throw .nameTooLong
          else return (l ++ [name], slash)

end HeaderCheck.FileTree
