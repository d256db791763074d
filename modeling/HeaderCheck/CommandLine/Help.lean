/-
# What a command line that asks for nothing is answered

The help text, the version, and a line for each fault of a command line.
-/
import HeaderCheck.CommandLine

namespace HeaderCheck

/-- The program with its version. -/
def versionLine : String :=
  "filehead 0.1.0\n"

/-- The help text. -/
def helpText : String :=
  String.join
    [ "Check that source files start with a required header comment.\n\n"
    , "Usage: filehead <COMMAND>\n\n"
    , "Commands:\n"
    , "  check [PATHS]  Report files whose header is missing or does not match\n"
    , "  fix [PATHS]    Insert or replace headers in place\n"
    , "  init           Write a starter .filehead.yaml in the current directory\n"
    , "  help           Print this text\n\n"
    , "Options:\n"
    , "  -c, --config <FILE>    Config file (check, fix)\n"
    , "  -p, --pattern <REGEX>  Header regex, instead of the one from the config file\n"
    , "  -t, --template <TEXT>  Header text to insert, instead of the one from the config file\n"
    , "      --json             Print the report as JSON (check)\n"
    , "      --force            Overwrite an existing config file (init)\n"
    , "  -h, --help             Print help\n"
    , "  -V, --version          Print version\n" ]

/-- The answer to a command line that asks for nothing. -/
def Usage.answer : Usage → String
  | unknownArgument => "error: unexpected argument\n"
  | invalidSubcommand => "error: unrecognized command\n"
  | invalidValue => "error: an option or a path has no value\n"
  | argumentConflict => "error: an option is given twice\n"
  | tooManyValues => "error: an option takes no value\n"
  | displayHelp => helpText
  | displayVersion => versionLine
  | displayHelpOnMissingCommand => helpText

end HeaderCheck
