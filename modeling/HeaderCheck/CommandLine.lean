/-
# The command line

A command line names a command, and after it options and paths in any
order.  An option's value is the next word, or it is attached: to a long
name by an equals sign, to a letter directly or by one.  A value that is a
word of its own cannot start with a hyphen, letters without values can be
written together, and two hyphens end the options.

The words of an option or of a run of paths are judged when the next option
or the end comes: an option that is given twice, one without a value, and
an empty word for a path are refused then, while an option that is not
known is refused at once.
-/
import HeaderCheck.Path

namespace HeaderCheck

/-- The options that the commands share: the configuration file, and a
pattern and a template to be used instead of its own. -/
structure RuleOptions where
  config : Option Path
  pattern : Option Text
  template : Option Text
deriving DecidableEq, Repr

/-- What a command line asks for. -/
inductive Invocation where
  | check (paths : List Path) (options : RuleOptions) (json : Bool)
  | fix (paths : List Path) (options : RuleOptions)
  | init (pattern : Text) (template : Option Text) (force : Bool)
deriving DecidableEq, Repr

/-- Why a command line asks for nothing: a fault of it, or a request for
help or the version. -/
inductive Usage where
  | unknownArgument
  | invalidSubcommand
  | invalidValue
  | argumentConflict
  | tooManyValues
  | displayHelp
  | displayVersion
  | displayHelpOnMissingCommand
deriving DecidableEq, Repr

/-- The exit code that goes with it. -/
def Usage.exitCode : Usage → Nat
  | displayHelp => 0
  | displayVersion => 0
  | _ => 2

namespace CommandLine

/-! ## Options -/

/-- The options. -/
inductive Switch where
  | config
  | pattern
  | template
  | json
  | force
  | help
  | version
deriving DecidableEq, Repr

namespace Switch

/-- The long name. -/
def name : Switch → String
  | config => "config"
  | pattern => "pattern"
  | template => "template"
  | json => "json"
  | force => "force"
  | help => "help"
  | version => "version"

/-- The letter. -/
def letter? : Switch → Option Char
  | config => some 'c'
  | pattern => some 'p'
  | template => some 't'
  | json => none
  | force => none
  | help => some 'h'
  | version => some 'V'

/-- Does it take a value? -/
def takesValue : Switch → Bool
  | config => true
  | pattern => true
  | template => true
  | _ => false

end Switch

/-- The options of a command, and whether it takes paths. -/
structure Grammar where
  switches : List Switch
  paths : Bool

/-- The words of the check command. -/
def checkGrammar : Grammar :=
  { switches := [.config, .pattern, .template, .json, .help, .version], paths := true }

/-- The words of the fix command. -/
def fixGrammar : Grammar :=
  { switches := [.config, .pattern, .template, .help, .version], paths := true }

/-- The words of the init command. -/
def initGrammar : Grammar :=
  { switches := [.pattern, .template, .force, .help, .version], paths := false }

/-- What precedes the command. -/
def outerGrammar : Grammar :=
  { switches := [.help, .version], paths := false }

namespace Grammar

/-- The option with a long name. -/
def named? (g : Grammar) (name : Text) : Option Switch :=
  g.switches.find? (·.name.toList = name)

/-- The option with a letter. -/
def lettered? (g : Grammar) (c : Char) : Option Switch :=
  g.switches.find? (·.letter? = some c)

end Grammar

/-! ## Reading the words -/

/-- Words that have not been judged yet. -/
inductive Pending where
  | nothing
  | option (s : Switch) (value : Option Text)
  | paths (words : List Text)
deriving DecidableEq, Repr

/-- What has been read: the options with their values, the paths, and the
words that have not been judged. -/
structure Words where
  given : List (Switch × Text)
  paths : List Text
  pending : Pending
deriving DecidableEq, Repr

namespace Words

/-- Nothing. -/
def none : Words :=
  { given := [], paths := [], pending := .nothing }

/-- The value of an option. -/
def value? (w : Words) (s : Switch) : Option Text :=
  (w.given.find? (·.1 = s)).map (·.2)

/-- Is an option given? -/
def has (w : Words) (s : Switch) : Bool :=
  (w.value? s).isSome

/-- Gives an option its value. -/
def give (w : Words) (s : Switch) (value : Text) : Except Usage Words :=
  if w.has s then .error .argumentConflict
  else if s = .config && value.isEmpty then .error .invalidValue
  else .ok { w with given := (s, value) :: w.given }

/-- Judges the words that are pending. -/
def settle (w : Words) : Except Usage Words :=
  let settled := { w with pending := .nothing }
  match w.pending with
  | .nothing => .ok settled
  | .option _ .none => .error .invalidValue
  | .option s (some value) => settled.give s value
  | .paths words =>
      if words.any (·.isEmpty) then .error .invalidValue
      else .ok { settled with paths := w.paths ++ words }

/-- Adds a path. -/
def addPath (g : Grammar) (w : Words) (word : Text) : Except Usage Words :=
  if !g.paths then .error .unknownArgument
  else match w.pending with
    | .paths words => .ok { w with pending := .paths (words ++ [word]) }
    | _ => return { (← w.settle) with pending := .paths [word] }

/-- Adds a word that is no option: the value that an option waits for, or
a path. -/
def addWord (g : Grammar) (w : Words) (word : Text) : Except Usage Words :=
  match w.pending with
  | .option s .none => .ok { w with pending := .option s (some word) }
  | _ => w.addPath g word

/-- Adds an option without a value. -/
def addFlag (w : Words) (s : Switch) : Except Usage Words := do
  let w ← w.settle
  match s with
  | .help => throw .displayHelp
  | .version => throw .displayVersion
  | _ => w.give s []

/-- Adds an option that takes a value, which may be attached. -/
def addOption (w : Words) (s : Switch) (attached : Option Text) : Except Usage Words := do
  let w ← w.settle
  match attached with
  | some value => w.give s value
  | .none => return { w with pending := .option s .none }

/-- Adds an option by its long name. -/
def addNamed (g : Grammar) (w : Words) (name : Text) (attached : Option Text) :
    Except Usage Words :=
  match g.named? name with
  | .none => .error .unknownArgument
  | some s =>
      if s.takesValue then w.addOption s attached
      else if attached.isSome then .error .tooManyValues
      else w.addFlag s

/-- Adds options by their letters. -/
def addLettered (g : Grammar) (w : Words) : Text → Except Usage Words
  | [] => .ok w
  | c :: rest =>
      match g.lettered? c with
      | .none => .error .unknownArgument
      | some s =>
          if s.takesValue then
            w.addOption s (match rest with
              | [] => .none
              | '=' :: value => some value
              | value => some value)
          else do addLettered g (← w.addFlag s) rest

end Words

/-- Reads the words behind a command. -/
def readWords (g : Grammar) : (ended : Bool) → Words → List Text → Except Usage Words
  | _, w, [] => w.settle
  | true, w, word :: rest => do readWords g true (← w.addPath g word) rest
  | false, w, word :: rest =>
      match word with
      | ['-', '-'] => readWords g true w rest
      | '-' :: '-' :: long => do
          let name := long.takeWhile (· ≠ '=')
          let attached := match long.dropWhile (· ≠ '=') with
            | [] => none
            | _ :: value => some value
          readWords g false (← w.addNamed g name attached) rest
      | '-' :: c :: letters => do readWords g false (← w.addLettered g (c :: letters)) rest
      | word => do readWords g false (← w.addWord g word) rest

/-! ## Invocations -/

/-- The paths that are given, or the current directory. -/
def pathsOf (w : Words) : List Path :=
  if w.paths.isEmpty then [.ofString "."] else w.paths.map Path.mk

/-- The options that are given. -/
def optionsOf (w : Words) : RuleOptions :=
  { config := (w.value? .config).map Path.mk
    pattern := w.value? .pattern
    template := w.value? .template }

/-- The pattern of a new configuration unless another one is given. -/
def starterPattern : Text := "Copyright \\d\x7b4\x7d".toList

/-- The commands that help can be asked about. -/
def commands : List Text :=
  ["check", "fix", "init", "help"].map String.toList

/-- What the help command answers. -/
def help : List Text → Usage
  | [] => .displayHelp
  | [command] => if commands.contains command then .displayHelp else .invalidSubcommand
  | _ => .invalidSubcommand

/-- What a command line without a command answers. -/
def withoutCommand : (words : List Text) → Usage
  | [] => .displayHelpOnMissingCommand
  | [['-', '-']] => .displayHelpOnMissingCommand
  | ['-', '-'] :: word :: _ =>
      if commands.contains word then .unknownArgument else .invalidSubcommand
  | word :: _ =>
      match word with
      | '-' :: _ :: _ =>
          match readWords outerGrammar false .none [word] with
          | .error usage => usage
          | .ok _ => .displayHelpOnMissingCommand
      | _ => .invalidSubcommand

end CommandLine

open CommandLine in
/-- What a command line asks for. -/
def Invocation.ofWords (words : List Text) : Except Usage Invocation :=
  match words with
  | [] => .error (withoutCommand [])
  | command :: rest =>
      match String.ofList command with
      | "check" => do
          let w ← readWords checkGrammar false .none rest
          return .check (pathsOf w) (optionsOf w) (w.has .json)
      | "fix" => do
          let w ← readWords fixGrammar false .none rest
          return .fix (pathsOf w) (optionsOf w)
      | "init" => do
          let w ← readWords initGrammar false .none rest
          return .init ((w.value? .pattern).getD starterPattern) (w.value? .template)
            (w.has .force)
      | "help" => .error (help rest)
      | _ => .error (withoutCommand words)

end HeaderCheck
