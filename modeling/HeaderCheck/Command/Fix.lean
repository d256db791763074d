/-
# The fix command

Fixes the files that the check finds fault with, one after the other.  A
file is written when its text changes, and stays in the report when its new
text still fails the check.  The first file that cannot be written ends the
run.
-/
import HeaderCheck.Command.Basic
import HeaderCheck.Replace

namespace HeaderCheck.Command

/-- A run over some files: the tree it leaves, the paths of the files that
were written, and the files that still fail. -/
structure Repair where
  tree : FileTree
  written : List Path
  left : Except Failure (List FileResult)

/-- The file with a new text, if that still fails the check. -/
def recheck (r : Rule) (f : FileResult) (text : Text) : Option FileResult :=
  (r.check text).map fun d => { path := f.path, text, diagnostic := some d }

/-- Fixes files. -/
def fixFiles (r : Rule) (t : FileTree) : List FileResult → Repair
  | [] => { tree := t, written := [], left := .ok [] }
  | f :: fs =>
      match r.fixed? f.text with
      | none =>
          let rest := fixFiles r t fs
          { rest with left := rest.left.map (f :: ·) }
      | some text =>
          let failing := (recheck r f text).toList
          if text = f.text then
            let rest := fixFiles r t fs
            { rest with left := rest.left.map (failing ++ ·) }
          else
            match t.replace f.path text with
            | (.error failure, t) => { tree := t, written := [], left := .error failure }
            | (.ok (), t) =>
                let rest := fixFiles r t fs
                { rest with
                  written := f.path :: rest.written
                  left := rest.left.map (failing ++ ·) }

/-- The line about a file that was written. -/
def writtenLine (p : Path) : String :=
  "Fixed: " ++ String.ofList p.spelling ++ "\n"

/-- What a run over some files prints at its end, and how it ends. -/
def summary (written : Nat) : List FileResult → String × Except Failure Unit
  | [] => (toString written ++ " file(s) fixed.\n", .ok ())
  | left => ((Report.ofFiles left).toText, .error (.headersLeft left.length))

/-- Runs the fix command. -/
def fix (t : FileTree) (paths : List Path) (o : RuleOptions) : Outcome :=
  match survey t paths o with
  | .error f => stopped t f
  | .ok s =>
      let warnings := String.join (s.checked.skipped.map skipWarning)
      match s.checked.files with
      | .error f => { stopped t f with warnings }
      | .ok files =>
          let repair := fixFiles s.rule t files
          let lines := String.join (repair.written.map writtenLine)
          match repair.left with
          | .error f => { output := lines, warnings, tree := repair.tree, result := .error f }
          | .ok left =>
              let (text, result) := summary repair.written.length left
              { output := lines ++ text, warnings, tree := repair.tree, result }

end HeaderCheck.Command
