/-
# What the commands share

A command runs on a file tree and leaves one, together with what it printed
and how it ended.

The configuration of a run is that of the file that is named, or else that
of the current directory, or else the default, with a pattern and a
template from the command line in place of its own; and it has to be valid.
-/
import HeaderCheck.CommandLine
import HeaderCheck.Config.Document
import HeaderCheck.Discovery
import HeaderCheck.Report

namespace HeaderCheck.Command

/-- What a command leaves behind. -/
structure Outcome where
  output : String
  warnings : String
  tree : FileTree
  result : Except Failure Unit

/-- The configuration that a file holds, not validated. -/
def readConfig (t : FileTree) (p : Path) : Except Failure Config := do
  Config.parse (← (t.readText p).mapError (.configUnreadable p))

/-- The configuration before the command line is looked at. -/
def storedConfig (t : FileTree) (named : Option Path) : Except Failure Config :=
  match named with
  | some p => readConfig t p
  | none => if t.isFile configFile then readConfig t configFile else .ok .default

/-- The configuration of a run. -/
def effectiveConfig (t : FileTree) (o : RuleOptions) : Except Failure Config := do
  let c := (← storedConfig t o.config).override o.pattern o.template
  c.validate
  return c

/-- The files that could be read as text, checked, and the paths of those
that are no text. -/
structure Checked where
  files : Except Failure (List FileResult)
  skipped : List Path

/-- Reads and checks files. -/
def checkFiles (t : FileTree) (r : Rule) : List Path → Checked
  | [] => { files := .ok [], skipped := [] }
  | p :: ps =>
      match t.read p with
      | .error fault => { files := .error (.sourceUnreadable p fault), skipped := [] }
      | .ok bytes =>
          let rest := checkFiles t r ps
          match Text.decode? bytes with
          | none => { rest with skipped := p :: rest.skipped }
          | some text =>
              { rest with
                files := rest.files.map fun fs =>
                  { path := p, text, diagnostic := r.check text } :: fs }

/-- The warning about a file that is no text. -/
def skipWarning (p : Path) : String :=
  "Warning: skipping '" ++ String.ofList p.spelling ++ "': not valid UTF-8\n"

/-- The rule of a run and the files it was applied to. -/
structure Survey where
  rule : Rule
  checked : Checked

/-- The files at the given paths that a configuration has checked. -/
def sources (t : FileTree) (paths : List Path) (c : Config) : Except Failure (List Path) := do
  t.discover (← Selection.ofConfig c) paths

/-- Finds and checks the files at the given paths. -/
def survey (t : FileTree) (paths : List Path) (o : RuleOptions) : Except Failure Survey := do
  let c ← effectiveConfig t o
  let rule ← (c.rule .empty).1
  return { rule, checked := checkFiles t rule (← sources t paths c) }

/-- A run that fails before anything was done. -/
def stopped (t : FileTree) (f : Failure) : Outcome :=
  { output := "", warnings := "", tree := t, result := .error f }

end HeaderCheck.Command
