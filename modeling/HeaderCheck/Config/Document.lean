/-
# Configurations as documents

A configuration is written as a mapping with one key for each setting.
Reading takes the settings that are given, ignores keys that are not known,
and leaves the rest at its default.  A document without content is the
default configuration.

A setting that is a text takes any scalar, however it is written.  The
template alone can be given as nothing: by an empty scalar, or by one of
the spellings of nothing written plain.
-/
import HeaderCheck.Config
import HeaderCheck.Yaml.Node
import HeaderCheck.Yaml.Printer

namespace HeaderCheck.Config

open Yaml

/-! ## Settings -/

/-- The tags of the core schema that matter here. -/
def coreTag (name : String) : Text :=
  ("tag:yaml.org,2002:" ++ name).toList

/-- The text of a scalar. -/
def textOf (d : Document) (n : Node) : Except Yaml.Fault Text :=
  match d.resolve n with
  | .scalar _ _ _ value => .ok value
  | _ => .error .scalarExpected

/-- A text that may be given as nothing. -/
def optionalText (d : Document) (n : Node) : Except Yaml.Fault (Option Text) :=
  match d.resolve n with
  | .scalar _ none .plain value =>
      .ok (if value.isEmpty || isNull value then none else some value)
  | .scalar _ (some tag) .plain value =>
      if tag ≠ coreTag "null" then .ok (some value)
      else if isNull value then .ok none
      else .error .nullExpected
  | .scalar _ _ _ value => .ok (some value)
  | _ => .error .scalarExpected

/-- A boolean, written plain, or as a literal block with its tag. -/
def flagOf (d : Document) (n : Node) : Except Yaml.Fault Bool :=
  match d.resolve n with
  | .scalar _ tag style value =>
      if style = .plain || (style = .literal && tag = some (coreTag "bool")) then
        (match boolean? value with
          | some b => .ok b
          | none => .error .booleanExpected)
      else .error .booleanExpected
  | _ => .error .booleanExpected

/-- A list of texts.  An empty plain scalar is the empty list. -/
def textsOf (d : Document) (n : Node) : Except Yaml.Fault (List Text) :=
  match d.resolve n with
  | .sequence _ items => items.mapM (textOf d)
  | .scalar _ _ .plain [] => .ok []
  | _ => .error .sequenceExpected

/-- The settings, each with whether it is given. -/
structure Given where
  pattern : Option Text
  template : Option (Option Text)
  blankLine : Option Bool
  extensions : Option (List Text)
  exclude : Option (List Text)

/-- No settings. -/
def Given.none : Given :=
  { pattern := Option.none, template := Option.none, blankLine := Option.none,
    extensions := Option.none, exclude := Option.none }

/-- Refuses a setting that is given already. -/
def refuseRepeated {α : Type} (name : String) (given : Option α) : Except Yaml.Fault Unit :=
  if given.isSome then .error (.fieldRepeated name) else .ok ()

/-- Adds the setting of a key. -/
def Given.add (g : Given) (d : Document) (key : Text) (n : Node) : Except Yaml.Fault Given := do
  match String.ofList key with
  | "header_pattern" =>
      refuseRepeated "header_pattern" g.pattern
      return { g with pattern := some (← textOf d n) }
  | "insertion_text" =>
      refuseRepeated "insertion_text" g.template
      return { g with template := some (← optionalText d n) }
  | "enforce_trailing_newline" =>
      refuseRepeated "enforce_trailing_newline" g.blankLine
      return { g with blankLine := some (← flagOf d n) }
  | "extensions" =>
      refuseRepeated "extensions" g.extensions
      return { g with extensions := some (← textsOf d n) }
  | "exclude" =>
      refuseRepeated "exclude" g.exclude
      return { g with exclude := some (← textsOf d n) }
  | _ => return g

/-- Adds the settings of all entries of a mapping. -/
def Given.addAll (d : Document) : Given → List (Node × Node) → Except Yaml.Fault Given
  | g, [] => .ok g
  | g, (key, value) :: entries => do
      let g ← g.add d (← textOf d key) value
      addAll d g entries

/-- The configuration with the given settings. -/
def Given.config (g : Given) : Config :=
  { pattern := g.pattern.getD default.pattern
    template := g.template.getD default.template
    blankLine := g.blankLine.getD default.blankLine
    extensions := g.extensions.getD default.extensions
    exclude := g.exclude.getD default.exclude }

/-! ## Documents -/

/-- The configuration that a document holds. -/
def ofDocument (d : Document) : Except Yaml.Fault Config :=
  match d.root with
  | none => .ok default
  | some (.mapping _ entries) => return (← Given.none.addAll d entries).config
  | some (.scalar _ _ .plain []) => .ok default
  | some _ => .error .mappingExpected

/-- The configuration that a text holds, not validated. -/
def parse (t : Text) : Except Failure Config :=
  if t.isBlank then .ok default
  else (Document.ofText t >>= ofDocument).mapError .configMalformed

/-- The valid configuration that a text holds. -/
def ofText (t : Text) : Except Failure Config := do
  let c ← parse t
  c.validate
  return c

/-- A configuration as a text.  A template that is not given is left out. -/
def toText (c : Config) : Text :=
  writeMapping
    (("header_pattern", .text c.pattern) ::
      (c.template.toList.map fun t => ("insertion_text", .text t)) ++
      [("enforce_trailing_newline", .flag c.blankLine),
       ("extensions", .list c.extensions),
       ("exclude", .list c.exclude)])

end HeaderCheck.Config
