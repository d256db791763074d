/-
# The header rule

The check of a text runs through four stages: the place of the header, the
comment found there, the verdict on it, and the diagnostic for the verdict.
Each stage takes byte offsets and slices the text, and answers `none` when
an offset it was given is no place of the text.  `examine?` is their
composition, and `check` what it finds; that `examine?` always has an
answer is a theorem about it, not an assumption of its callers.

A missing header is inserted at its place, followed by a blank line, and a
mismatched one that stands in its place is replaced, with the spacing after
it left alone.  A mismatched comment anywhere else is not touched.  Without
a template there is no fix.

Fixing a text means to apply the fix that the check offers and to check
again, since a replaced header can bring up the missing blank line.  Three
passes are the bound.
-/
import HeaderCheck.Opening
import HeaderCheck.Verdict
import HeaderCheck.Template
import HeaderCheck.Diagnostic

namespace HeaderCheck

/-- The name under which the rule reports. -/
def ruleName : String := "file-header"

/-- What every file has to open with: a comment that the pattern accepts,
followed by a blank line if `blankLine` asks for one.  The template is the
text of the headers that fixes write. -/
structure Rule where
  pattern : Pattern
  template : Option Text
  blankLine : Bool

/-- How many line endings follow an inserted header. -/
def breaksAfterHeader : Nat := 2

/-! ## From a verdict to a diagnostic -/

/-- The fix that inserts the header for a template at an offset. -/
def insertHeader? (t : Text) (offset : Nat) (template : Text) : Option Fix :=
  (t.upTo? offset).map fun before =>
    let ending := LineEnding.detect t
    let lead := if before.hasOpenLine then ending.mark else []
    Fix.insertion offset (lead ++ renderBlock template ending breaksAfterHeader)

/-- The fix that puts the header for a template in place of a comment. -/
def replaceComment (t : Text) (c : Comment) (template : Text) : Fix :=
  { start := c.start
    stop := c.stop
    replacement := renderBlock template (LineEnding.detect t) 0 }

/-- The fix for a verdict that calls for one. -/
def headerFix? (t : Text) (offset : Nat) (template : Text) : Verdict → Option Fix
  | .mismatched c true => some (replaceComment t c template)
  | _ => insertHeader? t offset template

/-- The diagnostic for a verdict, at the place of the header. -/
def diagnose? (t : Text) (offset : Nat) (verdict : Verdict) (template : Option Text) :
    Option (Option Diagnostic) :=
  match verdict, template with
  | .valid _, _ => some none
  | _, none => some (some (.at .missingHeader offset none))
  | v, some text =>
      (headerFix? t offset text v).map fun fix =>
        some (.at .missingHeader offset (some fix))

/-- The diagnostic for what follows a header: two line breaks are asked
for, unless nothing but blanks follows. -/
def diagnoseBlankLine? (t : Text) (c : Comment) : Option (Option Diagnostic) :=
  (t.from? c.stop).map fun rest =>
    let found := rest.leadingBreaks breaksAfterHeader
    if rest.isBlank || found = breaksAfterHeader then none
    else
      let missing := (LineEnding.detect t).mark.times (breaksAfterHeader - found)
      some (.at .missingNewLine c.stop (some (.insertion c.stop missing)))

/-! ## The check -/

namespace Rule

/-- The diagnostic for a verdict under a rule. -/
def judge? (r : Rule) (t : Text) (offset : Nat) (verdict : Verdict) :
    Option (Option Diagnostic) :=
  match verdict, r.blankLine with
  | .valid c, true => diagnoseBlankLine? t c
  | v, _ => diagnose? t offset v r.template

/-- The composition of the four stages. -/
def examine? (r : Rule) (t : Text) : Option (Option Diagnostic) := do
  let offset := t.headerStart
  let comment ← Comment.locate? t offset
  let verdict ← Verdict.of? r.pattern t offset comment
  r.judge? t offset verdict

/-- What is wrong with a text. -/
def check (r : Rule) (t : Text) : Option Diagnostic :=
  (r.examine? t).join

/-! ## Fixing -/

/-- The outcome of one pass over a text. -/
inductive Pass where
  | clean
  | stuck
  | changed (t : Text)
deriving DecidableEq, Repr

/-- One check, and the fix it offers applied. -/
def pass (r : Rule) (t : Text) : Pass :=
  match r.check t with
  | none => .clean
  | some d =>
      match d.fix.bind (·.edit? t) with
      | some u => .changed u
      | none => .stuck

/-- Passes are made until one changes nothing, or the bound is reached. -/
def repeatPass (r : Rule) : (bound : Nat) → Text → Text
  | 0, t => t
  | n + 1, t =>
      match r.pass t with
      | .changed u => r.repeatPass n u
      | _ => t

/-- The number of passes over one text. -/
def maxPasses : Nat := 3

/-- The fixed text; there is none if already the first check finds
something and offers no fix. -/
def fixed? (r : Rule) (t : Text) : Option Text :=
  match r.pass t with
  | .stuck => none
  | _ => some (r.repeatPass maxPasses t)

end Rule

end HeaderCheck
