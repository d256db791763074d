/-
# What is stored is read back

A configuration is written with one key for each setting, and without the key
of the template where there is none.  Reading adds the settings one by one.
Each text comes back as it is, in whatever style it was written, since only
a plain scalar can mean something else and a text that would is not written
plain; an empty list is written, and not left to the default; and a template
that was left out is the default.  So a configuration is read back from its
text (`parse_toText`), valid or not.

A configuration that was made by `init` is read by the next run without
options.  This is about the place of the file, and there is one exception: a
link with the name of the temporary file is moved, and where it leads through
the configuration's own name, it ends up as a link that leads to itself.
-/
import HeaderCheck.Command.Init
import HeaderCheck.Proofs.Arrival
import HeaderCheck.Proofs.Validity
import HeaderCheck.Proofs.Yaml.Document

namespace HeaderCheck

namespace Config

open Yaml

variable {c : Config} {d : Document} {g g' : Given} {t : Text} {ts : List Text}

/-! ## Values -/

theorem optionalText_textNode (d : Document) (t : Text) :
    optionalText d (textNode t) = .ok (some t) := by
  have hresolve : d.resolve (textNode t) = .scalar none none (styleOf t) t := rfl
  rw [optionalText, hresolve]
  -- only of a plain scalar it is asked whether it means nothing
  rcases styleOf_cases t with ⟨hs, -⟩ | ⟨hs, -, h, -⟩ | ⟨hs, -⟩ | hs
  · rw [hs]
  · simp only [isAmbiguous, Bool.or_eq_false_iff] at h
    have hsome : ¬ (t.isEmpty || isNull t) = true := by simp [h]
    simp only [hs]
    rw [if_neg hsome]
  · rw [hs]
  · rw [hs]

theorem flagOf_valueNode (d : Document) (b : Bool) : flagOf d (valueNode (.flag b)) = .ok b := by
  cases b <;> rfl

theorem textsOf_valueNode (d : Document) (ts : List Text) :
    textsOf d (valueNode (.list ts)) = .ok ts := by
  have hitems : (ts.map textNode).mapM (textOf d) = .ok ts := by
    induction ts with
    | nil => rfl
    | cons t ts ih =>
        have ht : textOf d (textNode t) = .ok t := rfl
        rw [List.map_cons, List.mapM_cons, ht, ih]
        rfl
  exact hitems

/-! ## Settings -/

theorem refuseRepeated_eq_ok_iff {α : Type} {name : String} {given : Option α} :
    refuseRepeated name given = .ok () ↔ given = none := by
  cases given <;> simp [refuseRepeated]

theorem add_pattern (h : g.pattern = none) (d : Document) (t : Text) :
    g.add d "header_pattern".toList (valueNode (.text t)) = .ok { g with pattern := some t } :=
  bind_eq_ok_iff.mpr ⟨(), refuseRepeated_eq_ok_iff.mpr h, rfl⟩

theorem add_template (h : g.template = none) (d : Document) (t : Text) :
    g.add d "insertion_text".toList (valueNode (.text t)) =
      .ok { g with template := some (some t) } :=
  bind_eq_ok_iff.mpr ⟨(), refuseRepeated_eq_ok_iff.mpr h,
    bind_eq_ok_iff.mpr ⟨some t, optionalText_textNode d t, rfl⟩⟩

theorem add_blankLine (h : g.blankLine = none) (d : Document) (b : Bool) :
    g.add d "enforce_trailing_newline".toList (valueNode (.flag b)) =
      .ok { g with blankLine := some b } :=
  bind_eq_ok_iff.mpr ⟨(), refuseRepeated_eq_ok_iff.mpr h,
    bind_eq_ok_iff.mpr ⟨b, flagOf_valueNode d b, rfl⟩⟩

theorem add_extensions (h : g.extensions = none) (d : Document) (ts : List Text) :
    g.add d "extensions".toList (valueNode (.list ts)) = .ok { g with extensions := some ts } :=
  bind_eq_ok_iff.mpr ⟨(), refuseRepeated_eq_ok_iff.mpr h,
    bind_eq_ok_iff.mpr ⟨ts, textsOf_valueNode d ts, rfl⟩⟩

theorem add_exclude (h : g.exclude = none) (d : Document) (ts : List Text) :
    g.add d "exclude".toList (valueNode (.list ts)) = .ok { g with exclude := some ts } :=
  bind_eq_ok_iff.mpr ⟨(), refuseRepeated_eq_ok_iff.mpr h,
    bind_eq_ok_iff.mpr ⟨ts, textsOf_valueNode d ts, rfl⟩⟩

theorem addAll_cons {key : String} {v : Value} {es : List (Node × Node)}
    (h : g.add d key.toList (valueNode v) = .ok g') :
    g.addAll d (entryNodes (key, v) :: es) = g'.addAll d es := by
  have hkey : textOf d (.scalar none none .plain key.toList) = .ok key.toList := rfl
  rw [entryNodes, Given.addAll, hkey]
  simp only [bind, Except.bind, h]

/-! ## The configuration -/

/-- The entries that a configuration is written with, the first one apart. -/
def furtherEntries (c : Config) : List (String × Value) :=
  (c.template.toList.map fun t => ("insertion_text", Value.text t)) ++
    [("enforce_trailing_newline", Value.flag c.blankLine),
     ("extensions", Value.list c.extensions),
     ("exclude", Value.list c.exclude)]

theorem addAll_furtherEntries (d : Document) (c : Config) :
    Given.addAll d { Given.none with pattern := some c.pattern }
        ((furtherEntries c).map entryNodes) =
      .ok { pattern := some c.pattern, template := c.template.map some,
            blankLine := some c.blankLine, extensions := some c.extensions,
            exclude := some c.exclude } := by
  -- the entries behind the template's are the same with it and without it
  have hrest : ∀ pattern template,
      Given.addAll d { Given.none with pattern := pattern, template := template }
          [entryNodes ("enforce_trailing_newline", .flag c.blankLine),
           entryNodes ("extensions", .list c.extensions),
           entryNodes ("exclude", .list c.exclude)] =
        .ok { pattern := pattern, template := template, blankLine := some c.blankLine,
              extensions := some c.extensions, exclude := some c.exclude } := by
    intro pattern template
    refine (addAll_cons (add_blankLine rfl d _)).trans ?_
    refine (addAll_cons (add_extensions rfl d _)).trans ?_
    exact addAll_cons (add_exclude rfl d _)
  rw [furtherEntries]
  cases c.template with
  | none => exact hrest _ _
  | some t => exact (addAll_cons (add_template rfl d t)).trans (hrest _ _)

theorem isKey_entries (c : Config) :
    ∀ e ∈ ("header_pattern", Value.text c.pattern) :: furtherEntries c,
      Layout.IsKey e.1.toList := by
  have hkeys : ∀ k ∈ ["header_pattern", "insertion_text", "enforce_trailing_newline", "extensions",
      "exclude"], Layout.IsKey k.toList := by decide
  have htemplate : ∀ e ∈ c.template.toList.map fun t => ("insertion_text", Value.text t),
      e.1 = "insertion_text" := by
    intro e he
    obtain ⟨t, -, rfl⟩ := List.mem_map.mp he
    rfl
  intro e he
  refine hkeys e.1 ?_
  rcases List.mem_cons.mp he with rfl | he
  · simp
  rcases List.mem_append.mp he with he | he
  · simp [htemplate e he]
  · simp only [List.mem_cons, List.not_mem_nil, or_false] at he
    rcases he with rfl | rfl | rfl
    all_goals simp

/-- What is written of a configuration is read as it. -/
theorem parse_toText (c : Config) : parse c.toText = .ok c := by
  have hwritten : c.toText =
      writeMapping (("header_pattern", .text c.pattern) :: furtherEntries c) := rfl
  have hblank : c.toText.isBlank = false := rfl
  have hentries : ∀ d, Given.none.addAll d
      ((("header_pattern", .text c.pattern) :: furtherEntries c).map entryNodes) = _ :=
    fun d => (addAll_cons (add_pattern rfl d c.pattern)).trans (addAll_furtherEntries d c)
  rw [parse, hblank, if_neg Bool.false_ne_true, mapError_eq_ok_iff, hwritten,
    ofText_writeMapping (isKey_entries c)]
  refine bind_eq_ok_iff.mpr ⟨_, rfl, bind_eq_ok_iff.mpr ⟨_, hentries _, ?_⟩⟩
  obtain ⟨pattern, template, blankLine, extensions, exclude⟩ := c
  cases template <;> rfl

/-- And if it is valid, it is read as a valid one. -/
theorem ofText_toText (h : c.validate = .ok ()) : ofText c.toText = .ok c :=
  bind_eq_ok_iff.mpr ⟨c, parse_toText c, bind_eq_ok_iff.mpr ⟨(), h, rfl⟩⟩

end Config

/-! ## The stored configuration -/

namespace Command

variable {t : FileTree} {c : Config} {pattern : Text} {template : Option Text} {force : Bool}

/-- A run that is given neither a configuration nor parts of one. -/
def noOptions : RuleOptions :=
  { config := none, pattern := none, template := none }

theorem effectiveConfig_stored (hc : c.validate = .ok ())
    (h : t.lookup? configFile = some (.file c.toText.encode)) :
    effectiveConfig t noOptions = .ok c := by
  have hfile : t.isFile configFile = true := by rw [FileTree.isFile, h]
  obtain ⟨l, hl⟩ : ∃ l, t.resolve configFile = .ok (.found l (.file c.toText.encode)) := by
    rw [FileTree.lookup?] at h
    split at h
    next l e hl =>
      obtain rfl := Option.some.inj h
      exact ⟨l, hl⟩
    next => cases h
  have hread : t.read configFile = .ok c.toText.encode := by
    rw [FileTree.read, hl]
    rfl
  have htext : t.readText configFile = .ok c.toText := by
    rw [readText_of_read hread, Text.decode?_encode]
  have hstored : storedConfig t none = .ok c := by
    rw [storedConfig, if_pos hfile, readConfig, htext]
    exact Config.parse_toText c
  exact bind_eq_ok_iff.mpr ⟨c, hstored, bind_eq_ok_iff.mpr ⟨(), hc, rfl⟩⟩

/-- What `init` does when nothing is in its way. -/
theorem init_eq (hfree : (t.exists? configFile && !force) = false)
    (hvalid : (starterConfig pattern template).validate = .ok ()) :
    (init t pattern template force).result =
        (t.replace configFile (starterConfig pattern template).toText).1 ∧
      (init t pattern template force).tree =
        (t.replace configFile (starterConfig pattern template).toText).2 := by
  rw [init, hfree, if_neg Bool.false_ne_true]
  simp only [hvalid]
  cases t.replace configFile (starterConfig pattern template).toText with
  | mk result u => cases result <;> exact ⟨rfl, rfl⟩

theorem init_eq_ok_iff :
    (init t pattern template force).result = .ok () ↔
      (t.exists? configFile && !force) = false ∧
        (starterConfig pattern template).validate = .ok () ∧
          (t.replace configFile (starterConfig pattern template).toText).1 = .ok () := by
  refine ⟨fun h => ?_, fun ⟨hfree, hvalid, hr⟩ => (init_eq hfree hvalid).1.trans hr⟩
  cases hfree : t.exists? configFile && !force with
  | true =>
      rw [init, hfree] at h
      cases h
  | false =>
      cases hvalid : (starterConfig pattern template).validate with
      | error f =>
          rw [init, hfree, if_neg Bool.false_ne_true] at h
          simp only [hvalid] at h
          cases h
      | ok _ => exact ⟨rfl, rfl, (init_eq hfree hvalid).1.symm.trans h⟩

theorem isName_configFile : FileTree.IsName configFile.spelling ∧
    FileTree.IsName (Path.temporaryName configFile.spelling) := by
  decide

theorem effectiveConfig_of_init (h : (init t pattern template force).result = .ok ())
    (hway : ∀ target, t.lodger? configFile = some (.link target) → t.WritesApart configFile) :
    effectiveConfig (init t pattern template force).tree noOptions =
      .ok (starterConfig pattern template) := by
  obtain ⟨hfree, hvalid, hreplace⟩ := init_eq_ok_iff.mp h
  rw [(init_eq hfree hvalid).2]
  exact effectiveConfig_stored hvalid (FileTree.lookup?_of_replace_name isName_configFile.1
    isName_configFile.2 (Prod.ext hreplace rfl) hway)

end Command

/-- **A configuration survives being stored.**  A valid one is read back from
its text with every setting it had.  So is the one that `init` has written:
a run in that directory that is given no options has the pattern and the
template, or none, that `init` was given, and defaults otherwise; unless
there was a link that had the name of the temporary file and led through the
configuration's own name. -/
theorem Config.survives_storing :
    (∀ c : Config, c.validate = .ok () → ofText c.toText = .ok c) ∧
    ∀ t pattern template force, (Command.init t pattern template force).result = .ok () →
      (∀ target, t.lodger? configFile = some (.link target) → t.WritesApart configFile) →
      Command.effectiveConfig (Command.init t pattern template force).tree Command.noOptions =
        .ok (Command.starterConfig pattern template) :=
  ⟨fun _ => ofText_toText, fun _ _ _ _ => Command.effectiveConfig_of_init⟩

namespace Command

theorem validate_starterConfig : (starterConfig "MIT".toList none).validate = .ok () := by
  decide +kernel

/-- A directory with nothing but a link that has the name of the temporary
file of the configuration. -/
def lodged (target : Text) : FileTree :=
  { entries := [([Path.temporaryName configFile.spelling], .link target)], current := [] }

section Lodged

variable {target name : Text}

theorem at?_lodged (target : Text) :
    (lodged target).at? [Path.temporaryName configFile.spelling] = some (.link target) := by
  simp [lodged, FileTree.at?]

theorem at?_lodged_other (h : name ≠ Path.temporaryName configFile.spelling) :
    (lodged target).at? [name] = none := by
  simp [lodged, FileTree.at?, h.symm]

/-- What is written to the temporary file gets to where the link leads. -/
theorem receives_lodged (ht : FileTree.IsName target)
    (hne : target ≠ Path.temporaryName configFile.spelling) :
    (lodged target).Receives ⟨Path.temporaryName configFile.spelling⟩ [target] := by
  have hstart : FileTree.start target [] = [] := ite_self []
  refine (FileTree.receives_name_iff isName_configFile.2).mpr
    (.follow isName_configFile.2.plain (at?_lodged target) ?_)
  rw [List.append_nil, FileTree.steps_name ht]
  show FileTree.Arrives _ _ (FileTree.start target []) _ _
  rw [hstart]
  exact .last ht.plain (FileTree.deadEnd_of_none (at?_lodged_other hne))

/-- A configuration can be stored there. -/
theorem init_lodged (ht : FileTree.IsName target)
    (hne : target ≠ Path.temporaryName configFile.spelling) :
    (init (lodged target) "MIT".toList none false).result = .ok () := by
  have hconfig : (lodged target).at? [configFile.spelling] = none :=
    at?_lodged_other (by decide)
  have hlookup : (lodged target).lookup? configFile = none :=
    (FileTree.Receives.lookup?_eq ((FileTree.receives_name_iff isName_configFile.1).mpr
      (.last isName_configFile.1.plain (FileTree.deadEnd_of_none hconfig)))).trans hconfig
  have hfree : ((lodged target).exists? configFile && !false) = false := by
    rw [FileTree.exists?, hlookup]
    rfl
  refine init_eq_ok_iff.mpr ⟨hfree, validate_starterConfig, FileTree.fst_replace_eq_ok_iff.mpr ?_⟩
  exact ⟨_, [target], [configFile.spelling], Path.temporary?_name isName_configFile.1,
    receives_lodged ht hne, FileTree.named?_name isName_configFile.1 _, by decide,
    by rw [hconfig]; exact nofun⟩

theorem writesApart_lodged (ht : FileTree.IsName target)
    (hne : target ≠ Path.temporaryName configFile.spelling)
    (hother : target ≠ configFile.spelling) :
    (lodged target).WritesApart configFile := by
  have herase : (lodged target).erase [configFile.spelling] = lodged target := by
    have hnames : Path.temporaryName configFile.spelling ≠ configFile.spelling := by decide
    simp [lodged, FileTree.erase, hnames]
  refine ⟨[configFile.spelling], _, [target], FileTree.named?_name isName_configFile.1 _,
    Path.temporary?_name isName_configFile.1, ?_, by simpa using hother⟩
  rw [herase]
  exact receives_lodged ht hne

end Lodged

theorem effectiveConfig_unstored (h : t.lookup? configFile = none) :
    effectiveConfig t noOptions = .error .patternUnset := by
  have hfile : t.isFile configFile = false := by rw [FileTree.isFile, h]
  have hstored : storedConfig t none = .ok .default := by
    rw [storedConfig, hfile]
    rfl
  have hunset : (Config.default.override none none).validate = .error .patternUnset := rfl
  simp only [effectiveConfig, noOptions, hstored, bind, Except.bind, hunset]

end Command

/-- With a link to some other name, the configuration is stored under that
name. -/
theorem Config.survives_storing_elsewhere :
    (Command.starterConfig "MIT".toList none).validate = .ok () ∧
      ofText (Command.starterConfig "MIT".toList none).toText =
        .ok (Command.starterConfig "MIT".toList none) ∧
      (Command.init (Command.lodged "stored.yaml".toList) "MIT".toList none false).result = .ok () ∧
      (Command.lodged "stored.yaml".toList).WritesApart configFile ∧
      Command.effectiveConfig (Command.init (Command.lodged "stored.yaml".toList) "MIT".toList none
        false).tree Command.noOptions = .ok (Command.starterConfig "MIT".toList none) := by
  have hinit : (Command.init (Command.lodged "stored.yaml".toList) "MIT".toList none false).result =
      .ok () := Command.init_lodged (by decide) (by decide)
  have hvalid := (Command.init_eq_ok_iff.mp hinit).2.1
  have hapart : (Command.lodged "stored.yaml".toList).WritesApart configFile :=
    Command.writesApart_lodged (by decide) (by decide) (by decide)
  obtain ⟨hread, hrun⟩ := survives_storing
  exact ⟨hvalid, hread _ hvalid, hinit, hapart, hrun _ _ _ _ hinit fun _ _ => hapart⟩

/-- With a link to the name of the configuration, there is none afterwards,
although it is said to have been written. -/
theorem Config.not_survives_storing :
    ¬ ((Command.init (Command.lodged configFile.spelling) "MIT".toList none false).result = .ok () →
      Command.effectiveConfig (Command.init (Command.lodged configFile.spelling) "MIT".toList none
        false).tree Command.noOptions = .ok (Command.starterConfig "MIT".toList none)) := by
  have hinit : (Command.init (Command.lodged configFile.spelling) "MIT".toList none false).result =
      .ok () := Command.init_lodged Command.isName_configFile.1 (by decide)
  obtain ⟨hfree, hvalid, hreplace⟩ := Command.init_eq_ok_iff.mp hinit
  have hlodger := (FileTree.lodger?_name Command.isName_configFile.1 Command.isName_configFile.2
    (Command.lodged configFile.spelling)).trans (Command.at?_lodged configFile.spelling)
  obtain ⟨hcurrent, hat⟩ := FileTree.at?_of_replace_name Command.isName_configFile.1
    (Prod.ext hreplace rfl) hlodger
  rw [← hcurrent] at hat
  have hunset := Command.effectiveConfig_unstored
    (FileTree.lookup?_of_own_link Command.isName_configFile.1 hat)
  rw [(Command.init_eq hfree hvalid).2]
  intro h
  cases hunset.symm.trans (h hinit)

end HeaderCheck
