/-
# Failures

Everything that ends a run without success, by its cause.  A failure is one
of three kinds, which decide the exit code: a configuration that cannot be
used, a file that cannot be read or written, and files that lack a valid
header.  The last kind alone is the answer to a question rather than an
error, and its wording says so.
-/
import HeaderCheck.FileTree.Basic
import HeaderCheck.Glob.Token
import HeaderCheck.Regex.Fault
import HeaderCheck.Yaml.Fault

namespace HeaderCheck

/-- The kinds of failure. -/
inductive FailureKind where
  | config
  | io
  | validation
deriving DecidableEq, Repr

/-- The causes of failure. -/
inductive Failure where
  | patternUnset
  | patternInvalid (source : Text) (fault : Regex.Fault)
  | templateClosesComment
  | extensionEmpty
  | extensionDotted (extension : Text)
  | excludeInvalid (glob : Text) (fault : Glob.Fault)
  | configMalformed (fault : Yaml.Fault)
  | configUnreadable (path : Path) (fault : FileTree.Fault)
  | configExists
  | pathMissing (path : Path)
  | sourceUnreadable (path : Path) (fault : FileTree.Fault)
  | pathUnnamed (path : Path)
  | temporaryUnwritten (path : Path) (fault : FileTree.Fault)
  | notReplaced (path : Path) (fault : FileTree.Fault)
  | headersMissing (files : Nat)
  | headersLeft (files : Nat)
deriving DecidableEq, Repr

namespace Failure

/-- The kind of a failure. -/
def kind : Failure → FailureKind
  | patternUnset | patternInvalid _ _ | templateClosesComment | extensionEmpty
  | extensionDotted _ | excludeInvalid _ _ | configMalformed _ | configUnreadable _ _
  | configExists => .config
  | pathMissing _ | sourceUnreadable _ _ | pathUnnamed _ | temporaryUnwritten _ _
  | notReplaced _ _ => .io
  | headersMissing _ | headersLeft _ => .validation

/-- A text between single quotes. -/
def quoted (t : Text) : String :=
  "'" ++ String.ofList t ++ "'"

/-- What a configuration has to be changed to. -/
def configRule (rule : String) : String :=
  "config validation failed: " ++ rule

/-- The wording of a cause. -/
def message : Failure → String
  | patternUnset =>
      configRule "header_pattern must be set.\n" ++
        "Fix: add \x60header_pattern: <regex>\x60 to .filehead.yaml or pass --pattern."
  | patternInvalid source fault =>
      "invalid regex pattern in header_pattern: " ++ quoted source ++ " - " ++
        fault.message ++ "\nFix: edit .filehead.yaml (or --pattern) and correct the pattern."
  | templateClosesComment =>
      configRule "insertion_text must not contain '*/'.\n" ++
        "Fix: remove the comment terminator from the template; " ++
        "it is wrapped in /* */ automatically."
  | extensionEmpty => configRule "extensions entries must be non-empty"
  | extensionDotted extension =>
      configRule "extensions entries must not have leading dots (found " ++
        quoted extension ++ "). Use " ++ quoted (extension.dropWhile (· = '.')) ++ " instead."
  | excludeInvalid glob fault =>
      "invalid glob pattern in exclude: " ++ quoted glob ++ " - error parsing glob " ++
        quoted glob ++ ": " ++ fault.message
  | configMalformed fault => "failed to parse config YAML: " ++ fault.message
  | configUnreadable path fault =>
      "failed to read config file " ++ quoted path.spelling ++ ": " ++ fault.message
  | configExists =>
      "'.filehead.yaml' already exists.\n" ++
        "Fix: edit it directly, or rerun with --force to overwrite."
  | pathMissing path => "path " ++ quoted path.spelling ++ " does not exist"
  | sourceUnreadable path fault =>
      "failed to read " ++ quoted path.spelling ++ ": " ++ fault.message
  | pathUnnamed path => "invalid file path " ++ quoted path.spelling
  | temporaryUnwritten path fault =>
      "failed to create temporary file " ++ quoted path.spelling ++ ": " ++ fault.message
  | notReplaced path fault =>
      "failed to atomically replace " ++ quoted path.spelling ++ ": " ++ fault.message
  | headersMissing files =>
      "Validation failed: " ++ toString files ++ " file(s) missing a valid header"
  | headersLeft files =>
      "Validation failed: " ++ toString files ++ " file(s) could not be fixed"

end Failure

/-! ## Exit codes -/

/-- The exit code of a run that succeeds. -/
def exitSuccess : Nat := 0

/-- The exit code of a kind of failure. -/
def FailureKind.exitCode : FailureKind → Nat
  | config => 1
  | io => 1
  | validation => 2

/-- The exit code of a failure. -/
def Failure.exitCode (f : Failure) : Nat :=
  f.kind.exitCode

end HeaderCheck
