/-
# Reports

The report on a list of checked files counts them and lists a violation for
each that has a diagnostic, at the position of its mark.  A violation is
fixable when its diagnostic offers a fix.

A report is written for a terminal, or as JSON with two spaces of
indentation and the keys in a fixed order.
-/
import HeaderCheck.Path
import HeaderCheck.Rule
import HeaderCheck.Text.Position

namespace HeaderCheck

/-- A file with its text and what the check found. -/
structure FileResult where
  path : Path
  text : Text
  diagnostic : Option Diagnostic
deriving DecidableEq, Repr

/-- A file that failed the check. -/
structure Violation where
  path : Text
  position : Position
  finding : Finding
  fixable : Bool
deriving DecidableEq, Repr

/-- The violation of a file, if there is one. -/
def FileResult.violation? (f : FileResult) : Option Violation :=
  f.diagnostic.map fun d =>
    { path := f.path.slashed
      position := f.text.position d.start
      finding := d.finding
      fixable := d.fix.isSome }

/-- What a run found. -/
structure Report where
  checked : Nat
  violations : List Violation
deriving DecidableEq, Repr

namespace Report

/-- The report on checked files. -/
def ofFiles (files : List FileResult) : Report :=
  { checked := files.length, violations := files.filterMap (·.violation?) }

/-- Is there nothing to report? -/
def passed (r : Report) : Bool :=
  r.violations.isEmpty

/-- The number of violations that can be fixed. -/
def fixable (r : Report) : Nat :=
  r.violations.countP (·.fixable)

/-! ## For a terminal -/

/-- The line of a violation. -/
def violationLine (v : Violation) : String :=
  String.ofList v.path ++ ":" ++ toString v.position.line ++ ":" ++
    toString v.position.column ++ "  " ++ v.finding.message ++ "\n"

/-- The report for a terminal. -/
def toText (r : Report) : String :=
  if r.passed then "Checked " ++ toString r.checked ++ " file(s): all headers valid.\n"
  else
    "File header violations\n\n" ++ String.join (r.violations.map violationLine) ++ "\n" ++
      toString r.violations.length ++ " of " ++ toString r.checked ++ " files failed (" ++
      toString r.fixable ++ " fixable with \x60filehead fix\x60)\n"

end Report

end HeaderCheck
