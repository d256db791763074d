/-
# Creating a configuration

The command that creates a configuration asks first whether there is one, and
asks the path: a file and a directory that have the name of the configuration
are in its way, and so is a link that leads to either.  Then it validates what
it is about to write, and only then does it write, by a replacement.

So a run ends in one of three ways (`init_cases`), and the first two leave the
tree as it was.  The third is a replacement of a file in the current directory,
and those go wrong in two ways only: the temporary file cannot be written, in
which case nothing has been, or a directory has the name of the file
(`tree_of_replace_name_error`), which takes force to get to.
-/
import HeaderCheck.Proofs.Stored

namespace HeaderCheck

namespace FileTree

variable {t u : FileTree} {name text : Text} {e : Entry} {f : Failure}

/-- The path of a name leads to what has that name, if that is no link. -/
theorem lookup?_of_entry (hname : IsName name) (hat : t.at? (t.current ++ [name]) = some e)
    (he : ∀ target, e ≠ .link target) : t.lookup? ⟨name⟩ = some e := by
  have hwalk : t.walk true maxLinks (t.origin name) (steps name) =
      .ok (.found (t.current ++ [name]) e) := by
    rw [origin_name hname, steps_name hname, walk_plain hname.plain, hat]
    cases e with
    | directory => rw [walk]
    | file content => rfl
    | link target => exact absurd rfl (he target)
  have hresolve : t.resolve ⟨name⟩ = .ok (.found (t.current ++ [name]) e) :=
    resolve_eq_ok_iff.mpr ⟨checkPath_name hname, hwalk⟩
  rw [lookup?, hresolve]

/-- A file in the current directory that could not be replaced has left
nothing behind, unless it is a directory. -/
theorem tree_of_replace_name_error (hname : IsName name)
    (h : t.replace ⟨name⟩ text = (.error f, u))
    (hdir : t.at? (t.current ++ [name]) ≠ some .directory) : u = t := by
  rcases exists_of_replace_error h with rfl | ⟨l, k, hs, -⟩
  · rfl
  · -- the temporary file has been written, and nothing keeps it from being moved
    obtain ⟨temporary, ht, hr⟩ := hs.received
    have hslash : name.getLast? ≠ some '/' := fun hl => hname.noSlash (List.mem_of_getLast? hl)
    have hok : (t.replace ⟨name⟩ text).1 = .ok () :=
      fst_replace_eq_ok_iff.mpr ⟨temporary, k, _, ht, hr, named?_name hname t, hslash, hdir⟩
    rw [h] at hok
    cases hok

end FileTree

namespace Command

variable {t u : FileTree} {pattern : Text} {template : Option Text} {force : Bool} {e : Entry}

/-- The place that a configuration has in the current directory. -/
def configPlace (t : FileTree) : Location :=
  t.current ++ [configFile.spelling]

/-! ## The ways that a run can take -/

/-- A configuration is in the way, or what was asked for is not valid, or it is
put in place. -/
theorem init_cases (t : FileTree) (pattern : Text) (template : Option Text) (force : Bool) :
    (t.exists? configFile = true ∧ force = false ∧
        init t pattern template force = stopped t .configExists) ∨
      (∃ f, init t pattern template force = stopped t f) ∨
      ((t.exists? configFile && !force) = false ∧
        (init t pattern template force).result =
          (t.replace configFile (starterConfig pattern template).toText).1 ∧
        (init t pattern template force).tree =
          (t.replace configFile (starterConfig pattern template).toText).2) := by
  cases hfree : t.exists? configFile && !force with
  | true =>
      obtain ⟨hexists, hforce⟩ := Bool.and_eq_true_iff.mp hfree
      refine Or.inl ⟨hexists, by simpa using hforce, ?_⟩
      rw [init, hfree, if_pos rfl]
  | false =>
      cases hvalid : (starterConfig pattern template).validate with
      | error f =>
          refine Or.inr (Or.inl ⟨f, ?_⟩)
          rw [init, hfree, if_neg Bool.false_ne_true]
          simp only [hvalid]
      | ok _ => exact Or.inr (Or.inr ⟨rfl, init_eq hfree hvalid⟩)

/-- Whatever has the name of the configuration and leads to something is in the
way of a run without force. -/
theorem init_of_entry (hat : t.at? (configPlace t) = some e)
    (hlink : ∀ target, e = .link target → t.exists? configFile = true) :
    init t pattern template false = stopped t .configExists := by
  have hexists : t.exists? configFile = true := by
    cases e with
    | link target => exact hlink target rfl
    | directory =>
        rw [FileTree.exists?, FileTree.lookup?_of_entry isName_configFile.1 hat (by simp)]
        rfl
    | file content =>
        rw [FileTree.exists?, FileTree.lookup?_of_entry isName_configFile.1 hat (by simp)]
        rfl
  rw [init, hexists]
  rfl

/-! ## What a run keeps -/

/-- What has to be kept by a run that fails: everything but spare entries; and
these as well, unless a directory was to be replaced by force. -/
structure FailsClean (t : FileTree) (force : Bool) (u : FileTree) : Prop where
  current : u.current = t.current
  others : ∀ q, ¬ t.Spare configFile q → u.at? q = t.at? q
  same : ¬ (force = true ∧ t.at? (configPlace t) = some .directory) → u = t

/-- What has to be kept by a run that succeeds: everything but the
configuration and spare entries.  The configuration is what was asked for, or
the link that had the name of its temporary file. -/
structure CreatesAlone (t : FileTree) (c : Config) (u : FileTree) : Prop where
  current : u.current = t.current
  others : ∀ q, q ≠ configPlace t → ¬ t.Spare configFile q → u.at? q = t.at? q
  created : (∀ target, t.lodger? configFile ≠ some (.link target)) →
    u.at? (configPlace t) = some (.file c.toText.encode)
  moved : ∀ target, t.lodger? configFile = some (.link target) →
    u.at? (configPlace t) = some (.link target)

theorem failsClean_self (t : FileTree) (force : Bool) : FailsClean t force t :=
  ⟨rfl, fun _ _ => rfl, fun _ => rfl⟩

theorem failsClean_of_replace {text : Text} {f : Failure}
    (hfree : (t.exists? configFile && !force) = false)
    (h : t.replace configFile text = (.error f, u)) : FailsClean t force u := by
  obtain ⟨hcurrent, hothers⟩ := FileTree.touches_of_replace_error h
  refine ⟨hcurrent, hothers, fun hno => ?_⟩
  refine FileTree.tree_of_replace_name_error isName_configFile.1 h fun hdir => hno ⟨?_, hdir⟩
  have hexists : t.exists? configFile = true := by
    rw [FileTree.exists?, FileTree.lookup?_of_entry isName_configFile.1 hdir (by simp)]
    rfl
  simpa [hexists] using hfree

theorem createsAlone_of_replace {c : Config} (h : t.replace configFile c.toText = (.ok (), u)) :
    CreatesAlone t c u := by
  obtain ⟨l, k, m, e, hs, hm, -, he, -, rfl⟩ := FileTree.exists_of_replace_ok h
  obtain rfl : configPlace t = m :=
    Option.some.inj ((FileTree.named?_name isName_configFile.1 t).symm.trans hm)
  have hplace : configPlace t ≠ [] := FileTree.ne_nil_of_named? hm
  have hself := FileTree.at?_put_self (t := (t.put k (.file c.toText.encode)).erase l) (e := e)
    hplace
  refine ⟨rfl, fun q hq hspare => (FileTree.at?_put_ne hq).trans (hs.at?_erase_put hspare), ?_, ?_⟩
  · intro hno
    rcases hs.at?_put c.toText.encode with ⟨target, hat, -⟩ | ⟨-, -, hput⟩
    · exact absurd (hs.lodger?_eq.trans hat) (hno target)
    · rw [hself, he.symm.trans hput]
  · intro target hlink
    rw [hs.lodger?_eq] at hlink
    rcases hs.at?_put c.toText.encode with ⟨target', hat, hput⟩ | ⟨hno, -, -⟩
    · rw [hself, he.symm.trans hput, ← hat, hlink]
    · exact absurd hlink (hno target)

/-- **Creating a configuration overwrites none and leaves no half of one.**
Without force, nothing happens where a file or a directory has its name, or a
link that leads to something.  A run that fails leaves the tree as it was, and
one that succeeds changes the configuration only; in both cases with the
exception of spare entries, of which there are none where nothing, or a
directory, has the name of the temporary file.  And it succeeds if nothing is in
its way, what was asked for is valid, and the file can be replaced. -/
theorem init_keeps_tree (t : FileTree) (pattern : Text) (template : Option Text) (force : Bool) :
    (∀ e, t.at? (configPlace t) = some e →
        (∀ target, e = .link target → t.exists? configFile = true) →
        init t pattern template false = stopped t .configExists) ∧
      (match (init t pattern template force).result with
        | .ok () =>
            CreatesAlone t (starterConfig pattern template) (init t pattern template force).tree
        | .error _ => FailsClean t force (init t pattern template force).tree) ∧
      ((∀ e, t.lodger? configFile = some e → e = .directory) → ∀ q, ¬ t.Spare configFile q) ∧
      ((init t pattern template force).result = .ok () ↔
        (t.exists? configFile && !force) = false ∧
          (starterConfig pattern template).validate = .ok () ∧
            (t.replace configFile (starterConfig pattern template).toText).1 = .ok ()) := by
  refine ⟨fun e hat hlink => init_of_entry hat hlink, ?_, FileTree.not_spare, init_eq_ok_iff⟩
  rcases init_cases t pattern template force with
    ⟨-, -, hstop⟩ | ⟨f, hstop⟩ | ⟨hfree, hresult, htree⟩
  · rw [hstop]
    exact failsClean_self t force
  · rw [hstop]
    exact failsClean_self t force
  · rw [hresult, htree]
    cases hr : t.replace configFile (starterConfig pattern template).toText with
    | mk result u =>
        cases result with
        | ok _ => exact createsAlone_of_replace hr
        | error f => exact failsClean_of_replace hfree hr

/-! ## Without the exceptions -/

/-- Whatever has the name of the configuration is in the way of a run without
force. -/
def KeepsName (t : FileTree) (pattern : Text) (template : Option Text) : Prop :=
  (t.at? (configPlace t)).isSome = true →
    (init t pattern template false).result ≠ .ok () ∧
      ∀ q, (init t pattern template false).tree.at? q = t.at? q

/-- A run that fails changes nothing. -/
def FailsAlone (t : FileTree) (pattern : Text) (template : Option Text) (force : Bool) : Prop :=
  (init t pattern template force).result ≠ .ok () →
    ∀ q, (init t pattern template force).tree.at? q = t.at? q

/-- A run that succeeds changes nothing but the configuration. -/
def ChangesName (t : FileTree) (pattern : Text) (template : Option Text) (force : Bool) : Prop :=
  (init t pattern template force).result = .ok () →
    ∀ q, q ≠ configPlace t → (init t pattern template force).tree.at? q = t.at? q

/-- A directory in which a link has the name of the configuration and leads
nowhere. -/
def dangling : FileTree :=
  { entries := [([configFile.spelling], .link "gone".toList)], current := [] }

/-- A directory in which a file has the name of the temporary file. -/
def crowdedConfig : FileTree :=
  { entries := [([Path.temporaryName configFile.spelling], .file (Text.encode "keep".toList))]
    current := [] }

/-- The same, with a directory that has the name of the configuration. -/
def blockedConfig : FileTree :=
  { crowdedConfig with
    entries := ([configFile.spelling], .directory) :: crowdedConfig.entries }

/-- A link that leads nowhere is replaced without force; and a file that has
the name of the temporary file is gone, whether the run goes well or not. -/
theorem not_init_keeps_all :
    ¬ KeepsName dangling "MIT".toList none ∧
      ¬ FailsAlone blockedConfig "MIT".toList none true ∧
      ¬ ChangesName crowdedConfig "MIT".toList none false := by
  have hkeep : ∀ u : FileTree, u.at? [Path.temporaryName configFile.spelling] = none →
      u.at? [Path.temporaryName configFile.spelling] ≠
        some (.file (Text.encode "keep".toList)) := by
    intro u hu hat
    cases hu.symm.trans hat
  refine ⟨fun h => ?_, fun h => ?_, fun h => ?_⟩
  · have hfree : (dangling.exists? configFile && !false) = false := by cbv
    have hwrite : ∀ text, (dangling.replace configFile text).1 = .ok () := fun text => by cbv
    have hrun := (init_eq hfree validate_starterConfig).1.trans (hwrite _)
    exact (h rfl).1 hrun
  · have hfree : (blockedConfig.exists? configFile && !true) = false := by cbv
    have hwrite : ∀ text, (blockedConfig.replace configFile text).1 =
        .error (.notReplaced configFile .isDirectory) := fun text => by cbv
    have hgone : ∀ text, (blockedConfig.replace configFile text).2.at?
        [Path.temporaryName configFile.spelling] = none := fun text => by cbv
    obtain ⟨hresult, htree⟩ := init_eq hfree validate_starterConfig
    rw [FailsAlone, hresult, htree, hwrite] at h
    exact hkeep _ (hgone _) (h (by simp) _)
  · have hfree : (crowdedConfig.exists? configFile && !false) = false := by cbv
    have hwrite : ∀ text, (crowdedConfig.replace configFile text).1 = .ok () := fun text => by cbv
    have hgone : ∀ text, (crowdedConfig.replace configFile text).2.at?
        [Path.temporaryName configFile.spelling] = none := fun text => by cbv
    obtain ⟨hresult, htree⟩ := init_eq hfree validate_starterConfig
    rw [ChangesName, hresult, htree, hwrite] at h
    exact hkeep _ (hgone _) (h rfl _ (by decide))

end Command

end HeaderCheck
