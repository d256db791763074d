/-
# The check command

Reports the files whose header is missing or does not match.  The command
fails when there are any; it changes nothing.
-/
import HeaderCheck.Command.Basic
import HeaderCheck.Report.Json

namespace HeaderCheck.Command

/-- How a check with a given report ends. -/
def verdict (r : Report) : Except Failure Unit :=
  if r.passed then .ok () else .error (.headersMissing r.violations.length)

/-- Runs the check command. -/
def check (t : FileTree) (paths : List Path) (o : RuleOptions) (json : Bool) : Outcome :=
  match survey t paths o with
  | .error f => stopped t f
  | .ok s =>
      let warnings := String.join (s.checked.skipped.map skipWarning)
      match s.checked.files with
      | .error f => { stopped t f with warnings }
      | .ok files =>
          let report := Report.ofFiles files
          { output := if json then report.toJson ++ "\n" else report.toText
            warnings
            tree := t
            result := verdict report }

end HeaderCheck.Command
