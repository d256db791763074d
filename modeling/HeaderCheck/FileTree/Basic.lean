/-
# File trees

A file tree says for each place below the root what is there: a directory,
a file with its bytes, or a symbolic link with its target.  The root itself
is always a directory.  A place is the list of the names that lead to it,
and relative paths start from the current one.
-/
import HeaderCheck.Path

namespace HeaderCheck

/-- A place in a file tree: the names that lead to it from the root. -/
abbrev Location := List Text

/-- Contents are compared byte by byte. -/
local instance (priority := high) contentDecidableEq : DecidableEq ByteArray :=
  ByteArray.instDecidableEq

/-- What can be at a place. -/
inductive Entry where
  | directory
  | file (content : ByteArray)
  | link (target : Text)
deriving DecidableEq

/-- A file tree: its entries, and the place from which relative paths
start. -/
structure FileTree where
  entries : List (Location × Entry)
  current : Location

namespace FileTree

/-- What is at a place. -/
def at? (t : FileTree) (l : Location) : Option Entry :=
  if l = [] then some .directory else (t.entries.find? (·.1 = l)).map (·.2)

/-- The tree without what is at a place. -/
def erase (t : FileTree) (l : Location) : FileTree :=
  { t with entries := t.entries.filter (·.1 ≠ l) }

/-- The tree with an entry put at a place. -/
def put (t : FileTree) (l : Location) (e : Entry) : FileTree :=
  { t with entries := (l, e) :: (t.erase l).entries }

/-- The names and entries directly below a place. -/
def children (t : FileTree) (l : Location) : List (Text × Entry) :=
  t.entries.filterMap fun (m, e) =>
    match m.getLast? with
    | some name => if m = l ++ [name] then some (name, e) else none
    | none => none

/-! ## What an operation can answer -/

/-- The causes for which an operation on a tree fails. -/
inductive Fault where
  | notFound
  | notDirectory
  | isDirectory
  | busy
  | nameTooLong
  | tooManyLinks
  | nameInvalid
  | notText
deriving DecidableEq, Repr

/-- The wording of a cause. -/
def Fault.message : Fault → String
  | notFound => "No such file or directory (os error 2)"
  | notDirectory => "Not a directory (os error 20)"
  | isDirectory => "Is a directory (os error 21)"
  | busy => "Device or resource busy (os error 16)"
  | nameTooLong => "File name too long (os error 36)"
  | tooManyLinks => "Too many levels of symbolic links (os error 40)"
  | nameInvalid => "file name contained an unexpected NUL byte"
  | notText => "stream did not contain valid UTF-8"

/-! ## The laws of `put` and `erase` -/

theorem at?_erase_ne {t : FileTree} {l m : Location} (h : m ≠ l) :
    (t.erase l).at? m = t.at? m := by
  have found_elsewhere :
      (fun e : Location × Entry => decide (decide (e.1 ≠ l) = true ∧ decide (e.1 = m) = true)) =
        fun e => decide (e.1 = m) := by
    funext e
    by_cases hm : e.1 = m
    · simp [hm, h]
    · simp [hm]
  simp only [at?, erase, List.find?_filter, found_elsewhere]

theorem at?_erase_self {t : FileTree} {l : Location} (h : l ≠ []) : (t.erase l).at? l = none := by
  simp [at?, erase, h]

theorem at?_put_self {t : FileTree} {l : Location} {e : Entry} (h : l ≠ []) :
    (t.put l e).at? l = some e := by
  simp [at?, put, h]

theorem at?_put_ne {t : FileTree} {l m : Location} {e : Entry} (h : m ≠ l) :
    (t.put l e).at? m = t.at? m := by
  rw [← at?_erase_ne (t := t) h]
  have hl : l ≠ m := fun hm => h hm.symm
  by_cases hm : m = []
  · simp [at?, hm]
  · simp [at?, put, hm, hl]

end FileTree

end HeaderCheck
