/-
# The init command

Writes a new configuration to the current directory.  A configuration that
is there is kept unless it is to be overwritten, and one that is not valid
is not written.
-/
import HeaderCheck.Command.Basic
import HeaderCheck.Replace

namespace HeaderCheck.Command

/-- The configuration with a pattern and a template, and defaults
otherwise. -/
def starterConfig (pattern : Text) (template : Option Text) : Config :=
  { Config.default with pattern, template }

/-- Runs the init command. -/
def init (t : FileTree) (pattern : Text) (template : Option Text) (force : Bool) : Outcome :=
  if t.exists? configFile && !force then stopped t .configExists
  else
    let c := starterConfig pattern template
    match c.validate with
    | .error f => stopped t f
    | .ok () =>
        match t.replace configFile c.toText with
        | (.error f, t) => stopped t f
        | (.ok (), t) =>
            { output := "Created " ++ String.ofList configFile.spelling ++ "\n"
              warnings := ""
              tree := t
              result := .ok () }

end HeaderCheck.Command
