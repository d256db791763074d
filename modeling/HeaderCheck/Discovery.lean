/-
# Finding the files to check

A file that is named is always checked.  A directory that is named is
walked: of the files below it those are kept whose extension is configured
and which no glob excludes, and directories that a glob excludes are not
entered.  A glob is tried on the path as it is walked and on the path
relative to the directory that was named, and for a directory on both with
a slash behind them as well.  The named directory itself is never excluded.

A directory is opened by its walked path, which grows with the depth.  One
whose path is too long is passed over without a word, with everything below
it.

A link below a named directory is neither a file nor a directory, so it is
not followed; a named link is.

The result is sorted by path, and of paths that mean the same the first one
stays.
-/
import HeaderCheck.Config
import HeaderCheck.FileTree.Access

namespace HeaderCheck

/-- What is kept of a walk. -/
structure Selection where
  extensions : List Text
  exclude : List Glob

namespace Selection

/-- The selection of a configuration. -/
def ofConfig (c : Config) : Except Failure Selection := do
  return { extensions := c.foldedExtensions, exclude := ← c.exclude.mapM Config.compileGlob }

/-- Is the extension of a path configured? -/
def selects (s : Selection) (p : Path) : Bool :=
  match p.extension? with
  | some e => s.extensions.contains (Unicode.lowercase e)
  | none => false

/-- Does a glob match a text? -/
def matchesText (s : Selection) (t : Text) : Bool :=
  s.exclude.any (·.accepts t)

/-- Is a path excluded? -/
def excludes (s : Selection) (p : Path) : Bool :=
  s.matchesText p.normalized

/-- Is a path excluded, as that of a directory? -/
def excludesDirectory (s : Selection) (p : Path) : Bool :=
  s.matchesText p.normalized || s.matchesText (p.normalized ++ ['/'])

/-- Is an entry of a walk excluded, by its walked path or by its path
relative to the named directory? -/
def skips (s : Selection) (e : Entry) (walked relative : Path) : Bool :=
  match e with
  | .directory => s.excludesDirectory walked || s.excludesDirectory relative
  | _ => s.excludes walked || s.excludes relative

end Selection

namespace FileTree

/-- Is a path of a directory short enough to open it? -/
def opens (p : Path) : Bool :=
  p.spelling.width ≤ maxPathWidth

/-- The files to check below a directory.  A directory is no deeper than
there are entries, so `depth` is their number. -/
def filesBelow (t : FileTree) (s : Selection) :
    (depth : Nat) → (walked relative : Path) → Location → List Path
  | 0, _, _, _ => []
  | depth + 1, walked, relative, l =>
      (t.children l).flatMap fun (name, e) =>
        if s.skips e (walked.join name) (relative.join name) then []
        else match e with
          | .directory =>
              if opens (walked.join name) then
                t.filesBelow s depth (walked.join name) (relative.join name) (l ++ [name])
              else []
          | .file _ => if s.selects (walked.join name) then [walked.join name] else []
          | .link _ => []

/-- The files to check at a named path. -/
def filesAt (t : FileTree) (s : Selection) (p : Path) : Except Failure (List Path) :=
  match t.resolve p with
  | .ok (.found _ (.file _)) => .ok [p]
  | .ok (.found l .directory) => .ok (t.filesBelow s t.entries.length p ⟨[]⟩ l)
  | _ => .error (.pathMissing p)

/-- The paths without those that mean the same as the one before. -/
def dropRepeats (previous : Option Path) : List Path → List Path
  | [] => []
  | p :: ps =>
      if previous.any (·.same p) then dropRepeats previous ps
      else p :: dropRepeats (some p) ps

/-- The files to check at named paths. -/
def discover (t : FileTree) (s : Selection) (paths : List Path) :
    Except Failure (List Path) := do
  let found ← paths.mapM (t.filesAt s)
  return dropRepeats none (found.flatten.mergeSort Path.le)

end FileTree

end HeaderCheck
