/-
# The configuration

A configuration says what headers have to look like and which files are
checked.  It is valid when its pattern is a regular expression, its
template can stand inside a block comment, and its extensions and globs can
be used; `validate` names the first fault in this order.

What a valid configuration is compiled into — the rule and the filter — can
then no longer fail.
-/
import HeaderCheck.Failure
import HeaderCheck.Glob.Match
import HeaderCheck.Pattern.Cache
import HeaderCheck.Rule
import HeaderCheck.Unicode.Casing

namespace HeaderCheck

/-- The settings of a run. -/
structure Config where
  pattern : Text
  template : Option Text
  blankLine : Bool
  extensions : List Text
  exclude : List Text
deriving DecidableEq, Repr

/-- The file that holds the configuration of a directory. -/
def configFile : Path := .ofString ".filehead.yaml"

namespace Config

/-- The extensions of files that are checked unless others are given: those
of languages with C-like comments. -/
def standardExtensions : List Text :=
  ["ts", "tsx", "js", "jsx", "mjs", "cjs", "rs", "c", "h", "cc", "cpp", "hpp", "java", "go",
    "swift", "kt", "scala", "css", "scss"].map String.toList

/-- The globs of paths that are skipped unless others are given. -/
def standardExclude : List Text :=
  ["**/node_modules/**", "**/target/**", "**/.git/**"].map String.toList

/-- The settings where nothing is given. -/
def default : Config :=
  { pattern := []
    template := none
    blankLine := false
    extensions := standardExtensions
    exclude := standardExclude }

/-- The configuration with a pattern or a template in place of its own. -/
def override (c : Config) (pattern template : Option Text) : Config :=
  { c with pattern := pattern.getD c.pattern, template := template.or c.template }

/-- Extensions are compared in lower case. -/
def foldedExtensions (c : Config) : List Text :=
  c.extensions.map Unicode.lowercase

/-! ## Validity -/

/-- What is wrong with an extension. -/
def checkExtension (e : Text) : Except Failure Unit :=
  if e = [] then .error .extensionEmpty
  else if e.head? = some '.' then .error (.extensionDotted e)
  else .ok ()

/-- Reads a glob of the configuration. -/
def compileGlob (g : Text) : Except Failure Glob :=
  (Glob.ofText g).mapError (.excludeInvalid g)

/-- Compiles the pattern of the configuration. -/
def compilePattern (p : Text) : Except Failure Pattern :=
  (Pattern.compile p).mapError (.patternInvalid p)

/-- What is wrong with a template. -/
def checkTemplate (t : Option Text) : Except Failure Unit :=
  if t.any (Text.includes closingMark) then .error .templateClosesComment else .ok ()

/-- Names the first fault of a configuration. -/
def validate (c : Config) : Except Failure Unit := do
  if c.pattern.isBlank then throw .patternUnset
  let _ ← compilePattern c.pattern
  checkTemplate c.template
  c.extensions.forM checkExtension
  c.exclude.forM fun g => do let _ ← compileGlob g

/-! ## The rule -/

/-- The rule of a configuration, its pattern compiled through a cache, and
the cache afterwards. -/
def rule (c : Config) (cache : Pattern.Cache) : Except Failure Rule × Pattern.Cache :=
  let (found, cache) := cache.compile c.pattern
  (match found with
    | .ok (_, pattern) =>
        .ok { pattern, template := c.template, blankLine := c.blankLine }
    | .error fault => .error (.patternInvalid c.pattern fault), cache)

end Config

namespace Rule

/-- The rule for a pattern and a template, compiled on its own.  It asks for
no blank line. -/
def compile (pattern : Text) (template : Option Text) : Except Failure Rule :=
  (Config.compilePattern pattern).map fun pattern => { pattern, template, blankLine := false }

/-- The rule, asking for a blank line or not. -/
def withBlankLine (r : Rule) (blankLine : Bool) : Rule :=
  { r with blankLine }

end Rule

end HeaderCheck
