/-
# The last line of a report

A report closes with three numbers: the files that failed, the files that
were checked, and the files that a fix can repair.  The fix command makes its
report on the files that it left failing, and on these alone, so of its
numbers the first is right and the second is the first again.

The third counts the fixes on offer, and one is offered to every file that
fails once there is a template (`isSome_fix_outcome`).  But the texts that a
run leaves are settled, so a second run leaves them as they are
(`outcome_outcome`): a file that is counted as fixable has been fixed before,
with a header that the pattern does not accept.  So the right number is zero,
and the line is right exactly when all files fail and there is no template
(`fix_counts`).
-/
import HeaderCheck.Proofs.Validity

namespace HeaderCheck

/-! ## The line -/

/-- The numbers in the last line of a report. -/
structure Tally where
  failed : Nat
  checked : Nat
  fixable : Nat
deriving DecidableEq, Repr

/-- The last line of a report. -/
def Tally.line (c : Tally) : String :=
  toString c.failed ++ " of " ++ toString c.checked ++ " files failed (" ++
    toString c.fixable ++ " fixable with \x60filehead fix\x60)\n"

namespace Report

/-- The numbers of a report. -/
def tally (r : Report) : Tally :=
  { failed := r.violations.length, checked := r.checked, fixable := r.fixable }

theorem exists_toText {r : Report} (h : r.violations ≠ []) :
    ∃ listing, r.toText = listing ++ r.tally.line := by
  refine ⟨"File header violations\n\n" ++ String.join (r.violations.map violationLine) ++ "\n", ?_⟩
  rw [toText, passed, if_neg (by simpa using h), tally, Tally.line]
  simp only [String.append_assoc]

end Report

/-! ## Fixing once more -/

section Outcome

variable {r : Rule} {t : Text} {d : Diagnostic}

/-- What a fix leaves, another fix leaves as it is. -/
theorem outcome_outcome (hr : ∀ τ ∈ r.template, Text.includes closingMark τ = false) (t : Text) :
    r.outcome (r.outcome t) = r.outcome t := by
  cases hf : r.fixed? t with
  | none => simp only [Rule.outcome, hf, Option.getD_none]
  | some x =>
      have hx : r.fixed? x = some x := (settled_of_fixed? hr hf).fixed?_eq
      simp only [Rule.outcome, hf, hx, Option.getD_some]

/-- With a template, a fix is offered for whatever the check finds. -/
theorem isSome_fix_of_template {τ : Text} (hτ : r.template = some τ) (hd : r.check t = some d) :
    d.fix.isSome = true := by
  cases reports_of_check hd with
  | unspaced => rfl
  | mismatched =>
      rw [hτ]
      rfl
  | missing =>
      rw [hτ]
      rfl

/-- Without one, none is offered for what a fix has left. -/
theorem fix_eq_none_of_outcome (hτ : r.template = none) (hd : r.check (r.outcome t) = some d) :
    d.fix = none := by
  -- a text with an accepted comment is made clean, and no other is changed
  rcases exists_anatomy t with ⟨a, ha, rfl⟩ | ⟨front, rest, hb, rfl⟩
  · cases hp : r.pattern.accepts a.comment.body with
    | true =>
        have hpass : r.pass a.text ≠ .stuck := by
          rw [pass_valid ha hp]
          split <;> simp
        rw [Rule.outcome, fixed?_eq_some_iff.mpr ⟨hpass, rfl⟩, Option.getD_some,
          Rule.maxPasses, check_repeatPass_valid ha hp 2] at hd
        cases hd
    | false =>
        have hpass : r.pass a.text = .stuck := by rw [pass_mismatched ha hp, hτ]
        rw [Rule.outcome, Rule.fixed?, hpass, Option.getD_none, check_mismatched ha hp, hτ] at hd
        obtain rfl := Option.some.inj hd
        rfl
  · have hpass : r.pass (front ++ rest) = .stuck := by rw [pass_bare hb, hτ]
    rw [Rule.outcome, Rule.fixed?, hpass, Option.getD_none, check_bare hb, hτ] at hd
    obtain rfl := Option.some.inj hd
    rfl

/-- Whether a fix is on offer for what a fix has left, says nothing about the
text: it says that there is a template. -/
theorem isSome_fix_outcome (hd : r.check (r.outcome t) = some d) :
    d.fix.isSome = r.template.isSome := by
  cases hτ : r.template with
  | none => rw [fix_eq_none_of_outcome hτ hd, Option.isSome_none, Option.isSome_none]
  | some τ => rw [isSome_fix_of_template hτ hd, Option.isSome_some]

end Outcome

namespace Command

variable {t u : FileTree} {r : Rule} {files left : List FileResult} {paths : List Path}
  {o : RuleOptions} {s : Survey} {n : Nat}

/-! ## The numbers of a run -/

/-- Does a run leave a file failing? -/
def fails (r : Rule) (f : FileResult) : Bool :=
  (r.check (r.outcome f.text)).isSome

/-- Does a run leave a file failing that another run makes clean? -/
def recovers (r : Rule) (f : FileResult) : Bool :=
  fails r f && (r.check (r.outcome (r.outcome f.text))).isNone

/-- The numbers as they are right: the files that still fail, all that were
checked, and those that another run makes clean. -/
def tally (r : Rule) (files : List FileResult) : Tally :=
  { failed := files.countP (fails r)
    checked := files.length
    fixable := files.countP (recovers r) }

theorem countP_fails (r : Rule) (files : List FileResult) :
    files.countP (fails r) = (remaining r files).length :=
  (length_remaining r files).symm

theorem fixable_tally (hr : ∀ τ ∈ r.template, Text.includes closingMark τ = false) :
    (tally r files).fixable = 0 := by
  rw [tally, List.countP_eq_zero]
  intro f _
  rw [recovers, outcome_outcome hr, fails]
  cases r.check (r.outcome f.text) <;> simp

/-- The numbers that a run shows. -/
def shown (r : Rule) (files : List FileResult) : Tally :=
  (Report.ofFiles (remaining r files)).tally

theorem violation?_of_mem_remaining {g : FileResult} (h : g ∈ remaining r files) :
    ∃ v, g.violation? = some v ∧ v.fixable = r.template.isSome := by
  obtain ⟨f, -, hf⟩ := List.mem_filterMap.mp h
  obtain ⟨d, hd, rfl⟩ := Option.map_eq_some_iff.mp hf
  exact ⟨_, rfl, isSome_fix_outcome hd⟩

theorem length_violations_remaining (r : Rule) (files : List FileResult) :
    (Report.ofFiles (remaining r files)).violations.length = (remaining r files).length := by
  rw [Report.ofFiles, List.length_filterMap_eq_countP, List.countP_eq_length]
  intro g hg
  obtain ⟨v, hv, -⟩ := violation?_of_mem_remaining hg
  rw [hv, Option.isSome_some]

/-- The numbers that are shown are all the same one, but for the third where
there is no template. -/
theorem shown_eq (r : Rule) (files : List FileResult) :
    shown r files =
      { failed := files.countP (fails r)
        checked := files.countP (fails r)
        fixable := if r.template.isSome then files.countP (fails r) else 0 } := by
  have hviolations := length_violations_remaining r files
  have hfixable : ∀ v ∈ (Report.ofFiles (remaining r files)).violations,
      v.fixable = r.template.isSome := by
    intro v hv
    obtain ⟨g, hg, hgv⟩ := List.mem_filterMap.mp hv
    obtain ⟨w, hw, hfix⟩ := violation?_of_mem_remaining hg
    obtain rfl := Option.some.inj (hgv.symm.trans hw)
    exact hfix
  rw [shown, Report.tally, hviolations, countP_fails, Tally.mk.injEq]
  refine ⟨rfl, rfl, ?_⟩
  rw [Report.fixable]
  cases hτ : r.template.isSome with
  | true =>
      rw [if_pos rfl, ← hviolations, List.countP_eq_length]
      exact fun v hv => (hfixable v hv).trans hτ
  | false =>
      rw [if_neg Bool.false_ne_true, List.countP_eq_zero]
      intro v hv
      rw [hfixable v hv, hτ]
      exact Bool.false_ne_true

/-- They are right only where nothing was checked but what fails, and no fix
is on offer. -/
theorem shown_eq_tally_iff (hr : ∀ τ ∈ r.template, Text.includes closingMark τ = false)
    (hfail : 0 < files.countP (fails r)) :
    shown r files = tally r files ↔ (∀ f ∈ files, fails r f = true) ∧ r.template = none := by
  have hzero : files.countP (recovers r) = 0 := fixable_tally hr
  rw [shown_eq, tally, hzero, Tally.mk.injEq, List.countP_eq_length]
  refine (and_iff_right rfl).trans (and_congr_right fun _ => ?_)
  cases r.template with
  | none => simp
  | some τ =>
      refine iff_of_false ?_ nofun
      rw [if_pos Option.isSome_some]
      omega

/-! ## A run that ends with a report -/

/-- A run that comes to its end has made all of its writes. -/
theorem exists_writes_of_left (hd : ∀ f ∈ files, f.diagnostic = r.check f.text)
    (h : (fixFiles r t files).left = .ok left) : ∃ u, t.Writes (changes r files) u := by
  induction files generalizing t left with
  | nil => exact ⟨t, .done⟩
  | cons f fs ih =>
      have hf : f.diagnostic = r.check f.text := hd f List.mem_cons_self
      have hfs : ∀ g ∈ fs, g.diagnostic = r.check g.text :=
        fun g hg => hd g (List.mem_cons_of_mem f hg)
      have hrest : ∀ {u : FileTree} {more : List FileResult → List FileResult},
          (fixFiles r u fs).left.map more = .ok left → ∃ v, u.Writes (changes r fs) v := by
        intro u more hmap
        cases hl : (fixFiles r u fs).left with
        | error e =>
            rw [hl] at hmap
            cases hmap
        | ok rest => exact ih hfs hl
      by_cases hkeep : r.outcome f.text = f.text
      · rw [fixFiles_keep hf hkeep] at h
        rw [changes_keep hkeep]
        exact hrest h
      · rw [changes_change hkeep]
        rcases hw : t.replace f.path (r.outcome f.text) with ⟨e | ⟨⟩, u⟩
        · rw [fixFiles_stop hkeep hw] at h
          cases h
        · rw [fixFiles_change hkeep hw] at h
          obtain ⟨v, hv⟩ := hrest h
          exact ⟨v, .next hw hv⟩

/-- Only a run that has checked its files, made all of its writes and left some
files failing ends with a report. -/
theorem exists_survey_of_headersLeft (h : (fix t paths o).result = .error (.headersLeft n)) :
    ∃ s files u, survey t paths o = .ok s ∧ s.checked.files = .ok files ∧
      t.Writes (changes s.rule files) u ∧ 0 < files.countP (fails s.rule) := by
  rcases fix_error_cases h with hs | ⟨s, hs, hrest⟩
  · rcases kind_of_survey_error hs with hk | hk <;> cases hk
  rcases hrest with hf | ⟨files, hf, hrest⟩
  · cases kind_of_files hs hf
  rcases hrest with hl | ⟨left, hl, hne, -⟩
  · cases kind_of_fixFiles hl
  · have hd := (files_of_survey hs hf).2
    obtain ⟨u, hw⟩ := exists_writes_of_left hd hl
    rw [fixFiles_writes hd hw] at hl
    obtain rfl := Except.ok.inj hl
    exact ⟨s, files, u, hs, hf, hw, countP_fails s.rule files ▸ List.length_pos_of_ne_nil hne⟩

/-- The template of a run does not close the comment that it stands in. -/
theorem enclosed_of_survey (hs : survey t paths o = .ok s) :
    ∀ τ ∈ s.rule.template, Text.includes closingMark τ = false := by
  obtain ⟨c, -, hc, hr, -, -⟩ := exists_config_of_survey hs
  have hvalid := validate_of_effectiveConfig hc
  obtain ⟨pattern, -, hrule⟩ := Config.exists_rule hvalid
  rw [Except.ok.inj (hr.symm.trans hrule)]
  exact (Config.validate_eq_ok_iff.mp hvalid).enclosed

/-- A run that leaves files failing ends with the numbers that it shows. -/
theorem fix_of_failing (hs : survey t paths o = .ok s) (hf : s.checked.files = .ok files)
    (hw : t.Writes (changes s.rule files) u) (hfail : 0 < files.countP (fails s.rule)) :
    (fix t paths o).result = .error (.headersLeft (files.countP (fails s.rule))) ∧
      ∃ listing, (fix t paths o).output = listing ++ (shown s.rule files).line := by
  rw [countP_fails] at hfail ⊢
  obtain ⟨-, houtput, hresult⟩ := fix_writes hs hf hw
  rw [summary_of_ne_nil _ (List.ne_nil_of_length_pos hfail)] at houtput hresult
  refine ⟨hresult, ?_⟩
  obtain ⟨listing, htext⟩ := (Report.ofFiles (remaining s.rule files)).exists_toText
    (List.ne_nil_of_length_pos (by rwa [length_violations_remaining]))
  exact ⟨_, by rw [houtput, htext, ← String.append_assoc, shown]⟩

/-- **Of the numbers that a run of the fix command closes with, the first is
right**, and so is the number of files that it fails with.  The second is the
first again, and the third counts the same files if there is a template,
though another run makes none of them clean. -/
theorem fix_counts (h : (fix t paths o).result = .error (.headersLeft n)) :
    ∃ s files, survey t paths o = .ok s ∧ s.checked.files = .ok files ∧
      n = (tally s.rule files).failed ∧
      (∃ listing, (fix t paths o).output = listing ++ (shown s.rule files).line) ∧
      shown s.rule files =
        { failed := (tally s.rule files).failed
          checked := (tally s.rule files).failed
          fixable := if s.rule.template.isSome then (tally s.rule files).failed else 0 } ∧
      (tally s.rule files).fixable = 0 ∧
      (shown s.rule files = tally s.rule files ↔
        (∀ f ∈ files, fails s.rule f = true) ∧ s.rule.template = none) := by
  obtain ⟨s, files, u, hs, hf, hw, hfail⟩ := exists_survey_of_headersLeft h
  obtain ⟨hresult, hline⟩ := fix_of_failing hs hf hw hfail
  have hn : n = files.countP (fails s.rule) :=
    Failure.headersLeft.inj (Except.error.inj (h.symm.trans hresult))
  have hr := enclosed_of_survey hs
  exact ⟨s, files, hs, hf, hn, hline, shown_eq s.rule files, fixable_tally hr,
    shown_eq_tally_iff hr hfail⟩

/-! ### A run over two files -/

/-- One of the files has its header, and the other one gets a header that is
not accepted. -/
theorem exists_survey_twoFiles :
    ∃ s files u, survey twoFiles [⟨"a.rs".toList⟩, ⟨"b.rs".toList⟩] otherLicence = .ok s ∧
      s.checked.files = .ok files ∧ twoFiles.Writes (changes s.rule files) u ∧
      s.rule.template.isSome = true ∧ files.length = 2 ∧ files.countP (fails s.rule) = 1 := by
  obtain ⟨r, hr, ha, hb⟩ := exists_rule_twoFiles
  obtain ⟨sel, hsel⟩ := exists_selection_twoFiles
  have hchecks : (((Config.default.override otherLicence.pattern
      otherLicence.template).rule .empty).1.toOption.map fun r =>
        (r.template.isSome, (r.check "// MIT".toList).isSome,
          (r.check "/*\n * BSD\n */\n\nfoo();".toList).isSome)) = some (true, false, true) := by
    decide +kernel
  rw [hr] at hchecks
  obtain ⟨hτ, hchecks⟩ := Prod.mk.inj (Option.some.inj hchecks)
  obtain ⟨hclean, hleft⟩ := Prod.mk.inj hchecks
  have hsources : sources twoFiles [⟨"a.rs".toList⟩, ⟨"b.rs".toList⟩]
      (Config.default.override otherLicence.pattern otherLicence.template) =
        .ok [⟨"a.rs".toList⟩, ⟨"b.rs".toList⟩] := by
    simp only [sources, hsel, discover_twoFiles, bind, Except.bind]
  have hs := survey_eq effectiveConfig_twoFiles hr hsources
  have hf := checkFiles_twoFiles r
  have hw : (twoFiles.replace ⟨"b.rs".toList⟩ (r.outcome "foo();".toList)).1 = .ok () := by
    rw [hb]
    cbv
  have hwrites : ∃ u, twoFiles.Writes [⟨⟨"b.rs".toList⟩, r.outcome "foo();".toList⟩] u :=
    ⟨_, .next (Prod.ext hw rfl) .done⟩
  obtain ⟨u, hu⟩ := hwrites
  have hne : r.outcome "foo();".toList ≠ "foo();".toList := by
    rw [hb]
    decide
  refine ⟨_, _, u, hs, hf, ?_, hτ, rfl, ?_⟩
  · rw [changes_keep (f := ⟨_, "// MIT".toList, _⟩) ha,
      changes_change (f := ⟨_, "foo();".toList, _⟩) hne]
    exact hu
  · rw [List.countP_cons, List.countP_cons]
    simp only [fails, ha, hb, hclean, hleft]
    rfl

theorem result_fix_twoFiles :
    (fix twoFiles [⟨"a.rs".toList⟩, ⟨"b.rs".toList⟩] otherLicence).result =
      .error (.headersLeft 1) := by
  obtain ⟨s, files, u, hs, hf, hw, -, -, hcount⟩ := exists_survey_twoFiles
  rw [(fix_of_failing hs hf hw (by omega)).1, hcount]

/-- Two files are checked and one of them fails, but the numbers are those of
one file, and that one is counted as fixable. -/
theorem fix_counts_twoFiles :
    (fix twoFiles [⟨"a.rs".toList⟩, ⟨"b.rs".toList⟩] otherLicence).result =
        .error (.headersLeft 1) ∧
      ∃ s files, survey twoFiles [⟨"a.rs".toList⟩, ⟨"b.rs".toList⟩] otherLicence = .ok s ∧
        s.checked.files = .ok files ∧ tally s.rule files = ⟨1, 2, 0⟩ ∧
        ∃ listing, (fix twoFiles [⟨"a.rs".toList⟩, ⟨"b.rs".toList⟩] otherLicence).output =
          listing ++ Tally.line ⟨1, 1, 1⟩ := by
  refine ⟨result_fix_twoFiles, ?_⟩
  obtain ⟨s, files, u, hs, hf, hw, hτ, hlength, hcount⟩ := exists_survey_twoFiles
  obtain ⟨s', files', hs', hf', hn, hline, hshown, hzero, -⟩ := fix_counts result_fix_twoFiles
  obtain rfl := Except.ok.inj (hs.symm.trans hs')
  obtain rfl := Except.ok.inj (hf.symm.trans hf')
  rw [hshown, ← hn, if_pos hτ] at hline
  refine ⟨s, files, hs, hf, ?_, hline⟩
  rw [Tally.mk.injEq]
  exact ⟨hcount, hlength, hzero⟩

/-- The line at the end of that run is not the one with the right numbers. -/
theorem fix_twoFiles_miscounts :
    ∃ s files, survey twoFiles [⟨"a.rs".toList⟩, ⟨"b.rs".toList⟩] otherLicence = .ok s ∧
      s.checked.files = .ok files ∧
      (fix twoFiles [⟨"a.rs".toList⟩, ⟨"b.rs".toList⟩] otherLicence).result =
        .error (.headersLeft 1) ∧
      ¬ ∃ listing, (fix twoFiles [⟨"a.rs".toList⟩, ⟨"b.rs".toList⟩] otherLicence).output =
        listing ++ (tally s.rule files).line := by
  obtain ⟨s, files, u, hs, hf, hw, hτ, hlength, hcount⟩ := exists_survey_twoFiles
  refine ⟨s, files, hs, hf, result_fix_twoFiles, ?_⟩
  rintro ⟨listing, hright⟩
  obtain ⟨-, listing', hline⟩ := fix_of_failing hs hf hw (by omega)
  have hshown : shown s.rule files = ⟨1, 1, 1⟩ := by rw [shown_eq, hcount, if_pos hτ]
  have hzero : files.countP (recovers s.rule) = 0 := fixable_tally (enclosed_of_survey hs)
  have htally : tally s.rule files = ⟨1, 2, 0⟩ := by rw [tally, hcount, hlength, hzero]
  -- both lines have the same length, so one end of the output would be both
  rw [hshown] at hline
  rw [htally, hline] at hright
  have hlist := congrArg String.toList hright
  rw [String.toList_append, String.toList_append] at hlist
  have hends := List.append_inj_right' hlist (by decide)
  exact absurd hends (by decide)

end Command

end HeaderCheck
