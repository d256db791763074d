/-
# Valid configurations

Validation names the first fault of a configuration.  `Valid` says what holds
of one that has none (`validate_eq_ok_iff`), and what a run makes of a
configuration — the rule, with a pattern that is compiled a second time
through a cache, and the selection, with globs that are read all at once —
is there for a valid one.
-/
import HeaderCheck.Discovery
import HeaderCheck.Proofs.Memo
import HeaderCheck.Proofs.Steps

namespace HeaderCheck

/-! ## What validation has seen -/

namespace Config

variable {c : Config} {g : Text}

/-- What has to hold of a configuration: it has a pattern, and one that
compiles; its template does not close the comment that it stands in; its
extensions are given without their dot; and its globs can be read. -/
structure Valid (c : Config) : Prop where
  given : c.pattern.isBlank = false
  compiled : ∃ pattern, Pattern.compile c.pattern = .ok pattern
  enclosed : ∀ τ, c.template = some τ → closingMark.includes τ = false
  dotless : ∀ e ∈ c.extensions, e ≠ [] ∧ e.head? ≠ some '.'
  readable : ∀ g ∈ c.exclude, ∃ glob, Glob.ofText g = .ok glob

theorem compilePattern_eq_ok_iff {s : Text} {pattern : Pattern} :
    compilePattern s = .ok pattern ↔ Pattern.compile s = .ok pattern :=
  mapError_eq_ok_iff

theorem compileGlob_eq_ok_iff {glob : Glob} :
    compileGlob g = .ok glob ↔ Glob.ofText g = .ok glob :=
  mapError_eq_ok_iff

theorem checkTemplate_eq_ok_iff {τ? : Option Text} :
    checkTemplate τ? = .ok () ↔ ∀ τ, τ? = some τ → closingMark.includes τ = false := by
  cases τ? with
  | none => exact iff_of_true rfl nofun
  | some τ =>
      rw [checkTemplate, Option.any_some]
      cases h : closingMark.includes τ <;> simp [h]

theorem checkExtension_eq_ok_iff {e : Text} :
    checkExtension e = .ok () ↔ e ≠ [] ∧ e.head? ≠ some '.' := by
  rw [checkExtension]
  split
  next h => simp [h]
  next h =>
    split
    next hd => simp [hd]
    next hd => simp [h, hd]

theorem checkGlob_eq_ok_iff :
    (do let _ ← compileGlob g) = Except.ok () ↔ ∃ glob, Glob.ofText g = .ok glob := by
  simp only [bind_eq_ok_iff, compileGlob_eq_ok_iff]
  exact exists_congr fun glob => and_iff_left rfl

theorem validate_eq_ok_iff : c.validate = .ok () ↔ c.Valid := by
  have hunfold : c.validate = .ok () ↔ c.pattern.isBlank = false ∧
      (compilePattern c.pattern >>= fun _ => checkTemplate c.template >>= fun _ =>
        c.extensions.forM checkExtension >>= fun _ =>
          c.exclude.forM fun g => do let _ ← compileGlob g) = .ok () := by
    rw [validate]
    cases c.pattern.isBlank with
    | true => exact iff_of_false nofun fun h => nomatch h.1
    | false => exact (and_iff_right rfl).symm
  rw [hunfold]
  constructor
  · rintro ⟨hb, h⟩
    obtain ⟨pattern, hp, h⟩ := bind_eq_ok_iff.mp h
    obtain ⟨⟨⟩, ht, h⟩ := bind_eq_ok_iff.mp h
    obtain ⟨⟨⟩, he, hg⟩ := bind_eq_ok_iff.mp h
    exact ⟨hb, ⟨pattern, compilePattern_eq_ok_iff.mp hp⟩, checkTemplate_eq_ok_iff.mp ht,
      fun e hmem => checkExtension_eq_ok_iff.mp (forM_eq_ok_iff.mp he e hmem),
      fun g hmem => checkGlob_eq_ok_iff.mp (forM_eq_ok_iff.mp hg g hmem)⟩
  · rintro ⟨hb, ⟨pattern, hp⟩, ht, he, hg⟩
    refine ⟨hb, bind_eq_ok_iff.mpr ⟨pattern, compilePattern_eq_ok_iff.mpr hp, ?_⟩⟩
    refine bind_eq_ok_iff.mpr ⟨(), checkTemplate_eq_ok_iff.mpr ht, ?_⟩
    exact bind_eq_ok_iff.mpr
      ⟨(), forM_eq_ok_iff.mpr fun e hmem => checkExtension_eq_ok_iff.mpr (he e hmem),
        forM_eq_ok_iff.mpr fun g hmem => checkGlob_eq_ok_iff.mpr (hg g hmem)⟩

/-! ## What is made of it -/

/-- The rule of a valid configuration, whatever a cache was asked for
before. -/
theorem Valid.exists_rule_session (h : c.Valid) (requests : List Text) :
    ∃ pattern, Pattern.compile c.pattern = .ok pattern ∧
      (c.rule (Pattern.Cache.empty.session requests).2).1 =
        .ok { pattern, template := c.template, blankLine := c.blankLine } := by
  obtain ⟨pattern, hp⟩ := h.compiled
  refine ⟨pattern, hp, ?_⟩
  rw [(Pattern.Cache.coherent_empty.session requests).rule_eq, Rule.compile,
    compilePattern_eq_ok_iff.mpr hp]
  rfl

theorem exists_rule (h : c.validate = .ok ()) :
    ∃ pattern, Pattern.compile c.pattern = .ok pattern ∧
      (c.rule .empty).1 = .ok { pattern, template := c.template, blankLine := c.blankLine } :=
  (validate_eq_ok_iff.mp h).exists_rule_session []

theorem Valid.exists_selection (h : c.Valid) : ∃ s, Selection.ofConfig c = .ok s := by
  obtain ⟨globs, hglobs⟩ : ∃ globs, c.exclude.mapM compileGlob = .ok globs := by
    refine exists_mapM_eq_ok fun g hg => ?_
    obtain ⟨glob, hglob⟩ := h.readable g hg
    exact ⟨glob, compileGlob_eq_ok_iff.mpr hglob⟩
  exact ⟨_, by rw [Selection.ofConfig, hglobs]; rfl⟩

end Config

end HeaderCheck
