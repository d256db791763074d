/-
# A valid configuration does not fail later

What keeps the configuration of a run from being known counts as a fault of
the configuration (`kind_of_effectiveConfig`).  A run whose configuration is
known has its rule and its selection, since a valid configuration has both.
What can still end it are the files: a named path where nothing is, a file
that cannot be read or replaced, and headers that are missing.  None of these
counts as a fault of the configuration (`kind_of_check`, `kind_of_fix`).
-/
import HeaderCheck.Proofs.Survey

namespace HeaderCheck

/-! ## What keeps a configuration from being known -/

namespace Config

variable {c : Config} {f : Failure}

theorem kind_of_checkExtension {e : Text} (h : checkExtension e = .error f) :
    f.kind = .config := by
  rw [checkExtension] at h
  split at h
  next =>
    obtain rfl := Except.error.inj h
    rfl
  next =>
    split at h
    next =>
      obtain rfl := Except.error.inj h
      rfl
    next => cases h

theorem kind_of_checkTemplate {τ? : Option Text} (h : checkTemplate τ? = .error f) :
    f.kind = .config := by
  rw [checkTemplate] at h
  split at h
  next =>
    obtain rfl := Except.error.inj h
    rfl
  next => cases h

theorem kind_of_compilePattern {s : Text} (h : compilePattern s = .error f) :
    f.kind = .config := by
  obtain ⟨fault, -, rfl⟩ := mapError_eq_error_iff.mp h
  rfl

theorem kind_of_compileGlob {g : Text} (h : compileGlob g = .error f) : f.kind = .config := by
  obtain ⟨fault, -, rfl⟩ := mapError_eq_error_iff.mp h
  rfl

theorem kind_of_validate (h : c.validate = .error f) : f.kind = .config := by
  rw [validate] at h
  cases hb : c.pattern.isBlank with
  | true =>
      rw [hb] at h
      obtain rfl := Except.error.inj h
      rfl
  | false =>
      rw [hb] at h
      rcases bind_eq_error_iff.mp h with h | ⟨-, -, h⟩
      · exact kind_of_compilePattern h
      rcases bind_eq_error_iff.mp h with h | ⟨-, -, h⟩
      · exact kind_of_checkTemplate h
      rcases bind_eq_error_iff.mp h with h | ⟨-, -, h⟩
      · obtain ⟨e, -, h⟩ := exists_of_forM_eq_error h
        exact kind_of_checkExtension h
      · obtain ⟨g, -, h⟩ := exists_of_forM_eq_error h
        rcases bind_eq_error_iff.mp h with h | ⟨-, -, h⟩
        · exact kind_of_compileGlob h
        · cases h

theorem kind_of_parse {s : Text} (h : parse s = .error f) : f.kind = .config := by
  rw [parse] at h
  split at h
  next => cases h
  next =>
    obtain ⟨fault, -, rfl⟩ := mapError_eq_error_iff.mp h
    rfl

end Config

namespace Command

variable {t : FileTree} {r : Rule} {paths ps : List Path} {o : RuleOptions} {c : Config}
  {f : Failure} {files : List FileResult} {s : Survey}

theorem kind_of_readConfig {p : Path} (h : readConfig t p = .error f) : f.kind = .config := by
  rcases bind_eq_error_iff.mp h with h | ⟨s, -, h⟩
  · obtain ⟨fault, -, rfl⟩ := mapError_eq_error_iff.mp h
    rfl
  · exact Config.kind_of_parse h

theorem kind_of_storedConfig {named : Option Path} (h : storedConfig t named = .error f) :
    f.kind = .config := by
  cases named with
  | some p => exact kind_of_readConfig h
  | none =>
      rw [storedConfig] at h
      split at h
      next => exact kind_of_readConfig h
      next => cases h

theorem kind_of_effectiveConfig (h : effectiveConfig t o = .error f) : f.kind = .config := by
  rw [effectiveConfig] at h
  rcases bind_eq_error_iff.mp h with h | ⟨stored, -, h⟩
  · exact kind_of_storedConfig h
  rcases bind_eq_error_iff.mp h with h | ⟨-, -, h⟩
  · exact Config.kind_of_validate h
  · cases h

/-! ## What can still end a run -/

theorem kind_of_checkFiles (h : (checkFiles t r ps).files = .error f) : f.kind = .io := by
  induction ps with
  | nil => cases h
  | cons p ps ih =>
      rw [checkFiles] at h
      cases hr : t.read p with
      | error fault =>
          rw [hr] at h
          obtain rfl := Except.error.inj h
          rfl
      | ok bytes =>
          simp only [hr] at h
          cases hd : Text.decode? bytes with
          | none =>
              simp only [hd] at h
              exact ih h
          | some text =>
              simp only [hd] at h
              cases hrest : (checkFiles t r ps).files with
              | error e =>
                  rw [hrest] at h
                  obtain rfl := Except.error.inj h
                  exact ih hrest
              | ok rest =>
                  rw [hrest] at h
                  cases h

theorem kind_of_fixFiles (h : (fixFiles r t files).left = .error f) : f.kind = .io := by
  induction files generalizing t with
  | nil => cases h
  | cons x files ih =>
      have hrest : ∀ {u : FileTree} {more : List FileResult → List FileResult},
          (fixFiles r u files).left.map more = .error f → f.kind = .io := by
        intro u more hmap
        cases hl : (fixFiles r u files).left with
        | error e =>
            rw [hl] at hmap
            obtain rfl := Except.error.inj hmap
            exact ih hl
        | ok left =>
            rw [hl] at hmap
            cases hmap
      rw [fixFiles] at h
      split at h
      next => exact hrest h
      next text _ =>
        simp only at h
        split at h
        next => exact hrest h
        next =>
          split at h
          next e u hw =>
            obtain rfl := Except.error.inj h
            exact FileTree.kind_of_replace hw
          next => exact hrest h

/-- Once the configuration is known, only finding the files can keep a
survey from being made. -/
theorem kind_of_survey (hc : effectiveConfig t o = .ok c) (h : survey t paths o = .error f) :
    f.kind = .io := by
  have hv := Config.validate_eq_ok_iff.mp (validate_of_effectiveConfig hc)
  obtain ⟨pattern, -, hr⟩ := Config.exists_rule (validate_of_effectiveConfig hc)
  obtain ⟨s, hs⟩ := hv.exists_selection
  have hsources : sources t paths c = t.discover s paths := by
    rw [sources, hs]
    rfl
  rw [survey, hc] at h
  rcases bind_eq_error_iff.mp h with h | ⟨c', hc', h⟩
  · cases h
  obtain rfl := Except.ok.inj hc'
  rw [hr] at h
  rcases bind_eq_error_iff.mp h with h | ⟨r, -, h⟩
  · cases h
  rcases bind_eq_error_iff.mp h with h | ⟨found, -, h⟩
  · exact FileTree.kind_of_discover (hsources.symm.trans h)
  · cases h

theorem kind_of_survey_error (h : survey t paths o = .error f) :
    f.kind = .config ∨ f.kind = .io := by
  cases hc : effectiveConfig t o with
  | error e =>
      rw [survey, hc] at h
      obtain rfl := Except.error.inj h
      exact Or.inl (kind_of_effectiveConfig hc)
  | ok c => exact Or.inr (kind_of_survey hc h)

theorem kind_of_files (hs : survey t paths o = .ok s) (h : s.checked.files = .error f) :
    f.kind = .io := by
  obtain ⟨ps, -, hchecked⟩ := checked_of_survey hs
  rw [hchecked] at h
  exact kind_of_checkFiles h

theorem kind_of_check {json : Bool} (hc : effectiveConfig t o = .ok c)
    (h : (check t paths o json).result = .error f) : f.kind = .io ∨ f.kind = .validation := by
  cases hs : survey t paths o with
  | error e =>
      simp only [check, hs] at h
      obtain rfl := Except.error.inj h
      exact Or.inl (kind_of_survey hc hs)
  | ok s =>
      cases hf : s.checked.files with
      | error e =>
          simp only [check, hs, hf] at h
          obtain rfl := Except.error.inj h
          exact Or.inl (kind_of_files hs hf)
      | ok files =>
          simp only [check, hs, hf, verdict] at h
          split at h
          next => cases h
          next =>
            obtain rfl := Except.error.inj h
            exact Or.inr rfl

/-- A run of the fix command fails where its files are not found, not read or
not written, or with a report on those that it leaves failing. -/
theorem fix_error_cases (h : (fix t paths o).result = .error f) :
    survey t paths o = .error f ∨ ∃ s, survey t paths o = .ok s ∧
      (s.checked.files = .error f ∨ ∃ files, s.checked.files = .ok files ∧
        ((fixFiles s.rule t files).left = .error f ∨
          ∃ left, (fixFiles s.rule t files).left = .ok left ∧ left ≠ [] ∧
            f = .headersLeft left.length)) := by
  cases hs : survey t paths o with
  | error e =>
      simp only [fix, hs] at h
      exact Or.inl (congrArg Except.error (Except.error.inj h))
  | ok s =>
      refine Or.inr ⟨s, rfl, ?_⟩
      cases hf : s.checked.files with
      | error e =>
          simp only [fix, hs, hf] at h
          exact Or.inl (congrArg Except.error (Except.error.inj h))
      | ok files =>
          refine Or.inr ⟨files, rfl, ?_⟩
          rw [fix_of_survey hs hf] at h
          cases hl : (fixFiles s.rule t files).left with
          | error e =>
              simp only [hl] at h
              exact Or.inl (congrArg Except.error (Except.error.inj h))
          | ok left =>
              simp only [hl] at h
              cases left with
              | nil => cases h
              | cons x left => exact Or.inr ⟨_, rfl, by simp, (Except.error.inj h).symm⟩

theorem kind_of_fix (hc : effectiveConfig t o = .ok c)
    (h : (fix t paths o).result = .error f) : f.kind = .io ∨ f.kind = .validation := by
  rcases fix_error_cases h with hs | ⟨s, hs, hf | ⟨files, hf, hl | ⟨left, hl, -, rfl⟩⟩⟩
  · exact Or.inl (kind_of_survey hc hs)
  · exact Or.inl (kind_of_files hs hf)
  · exact Or.inl (kind_of_fixFiles hl)
  · exact Or.inr rfl

end Command

/-- **A valid configuration never fails later**, whether it was validated as
it stands or with parts in place of its own.  It has its rule, from any cache
that patterns were asked of, and its selection; and no run with it ends in a
fault of the configuration, whatever the files are. -/
theorem Config.valid_never_misconfigured {c : Config} (h : c.validate = .ok ()) :
    (∀ requests : List Text, ∃ pattern, Pattern.compile c.pattern = .ok pattern ∧
      (c.rule (Pattern.Cache.empty.session requests).2).1 =
        .ok { pattern, template := c.template, blankLine := c.blankLine }) ∧
    (∃ s, Selection.ofConfig c = .ok s) ∧
    ∀ t o, Command.effectiveConfig t o = .ok c → ∀ paths f,
      (∀ json, (Command.check t paths o json).result = .error f →
        f.kind = .io ∨ f.kind = .validation) ∧
      ((Command.fix t paths o).result = .error f → f.kind = .io ∨ f.kind = .validation) := by
  have hv := validate_eq_ok_iff.mp h
  refine ⟨hv.exists_rule_session, hv.exists_selection, fun t o hc paths f => ?_⟩
  exact ⟨fun json => Command.kind_of_check hc, Command.kind_of_fix hc⟩

/-- A run with a pattern and a template of its own and the standard globs. -/
theorem Config.valid_never_misconfigured_otherLicence :
    (default.override Command.otherLicence.pattern Command.otherLicence.template).validate =
        .ok () ∧
      (∃ s, Selection.ofConfig (default.override Command.otherLicence.pattern
        Command.otherLicence.template) = .ok s) ∧
      ∀ paths f, (Command.fix Command.twoFiles paths Command.otherLicence).result = .error f →
        f.kind = .io ∨ f.kind = .validation := by
  have hvalid : (default.override Command.otherLicence.pattern
      Command.otherLicence.template).validate = .ok () := by decide +kernel
  obtain ⟨-, hselection, hruns⟩ := valid_never_misconfigured hvalid
  exact ⟨hvalid, hselection, fun paths f =>
    (hruns _ _ Command.effectiveConfig_twoFiles paths f).2⟩

end HeaderCheck
