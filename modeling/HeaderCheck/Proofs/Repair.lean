/-
# What a run of the fix command accounts for

The command goes through the checked files once, and each of them takes one
of three ways: it keeps its text, it is written, or it cannot be written
and ends the run.  Which one, is decided by the text that fixing leaves the
file with (`Rule.outcome`): a file is written exactly when that differs from
what it held (`changes`), and it stays in the report exactly when that fails
the check (`remaining`).  Both lists are in the order of the files.

The loop carries the tree, the paths written and the files left, and stops
early; the two run lemmas say what the three are, when all writes succeed
(`fixFiles_writes`) and when one of them does not (`fixFiles_stops`).  Both
are inductions on the files over the same three steps.  The one case that
looks different from the others is a file to which no fix is offered: it is
left as it was found, with the diagnostic that it came with.  That this is
the diagnostic of its outcome is a fact about the survey, not about the loop
(`files_of_checkFiles`), and so is that no two writes are to the same path.
-/
import Mathlib
import HeaderCheck.Command.Fix
import HeaderCheck.Proofs.Convergence
import HeaderCheck.Proofs.PathOrder

namespace HeaderCheck

/-! ## Writing files one after the other -/

/-- A file to be written: its path and its new text. -/
structure Write where
  path : Path
  text : Text
deriving DecidableEq, Repr

/-- Files are written in order, each with success, and the last tree is
what they leave. -/
inductive FileTree.Writes : FileTree → List Write → FileTree → Prop
  | done {t : FileTree} : Writes t [] t
  | next {t u v : FileTree} {w : Write} {ws : List Write} :
      t.replace w.path w.text = (.ok (), u) → Writes u ws v → Writes t (w :: ws) v

/-- Whatever keeps a file from being replaced counts as input or output. -/
theorem FileTree.kind_of_replace {t u : FileTree} {p : Path} {text : Text} {e : Failure}
    (h : t.replace p text = (.error e, u)) : e.kind = .io := by
  rw [replace] at h
  split at h
  next =>
    cases h
    rfl
  next temporary _ =>
    split at h
    next =>
      cases h
      rfl
    next =>
      split at h
      next => cases h
      next =>
        cases h
        rfl

/-! ## What a run has to do -/

/-- The text that fixing leaves: the fixed one, or the old one where there
is none. -/
def Rule.outcome (r : Rule) (t : Text) : Text :=
  (r.fixed? t).getD t

namespace Command

/-- The writes that a list of files calls for: those whose outcome differs
from what they hold. -/
def changes (r : Rule) (files : List FileResult) : List Write :=
  (files.filter fun f => r.outcome f.text ≠ f.text).map fun f => ⟨f.path, r.outcome f.text⟩

/-- The files whose outcome fails the check, each with its outcome and the
diagnostic of that. -/
def remaining (r : Rule) (files : List FileResult) : List FileResult :=
  files.filterMap fun f => recheck r f (r.outcome f.text)

variable {r : Rule} {t u v : FileTree} {f : FileResult} {fs files : List FileResult}

theorem changes_keep (h : r.outcome f.text = f.text) : changes r (f :: fs) = changes r fs := by
  rw [changes, List.filter_cons_of_neg (by simpa using h), changes]

theorem changes_change (h : r.outcome f.text ≠ f.text) :
    changes r (f :: fs) = ⟨f.path, r.outcome f.text⟩ :: changes r fs := by
  rw [changes, List.filter_cons_of_pos (by simpa using h), List.map_cons, changes]

theorem remaining_cons :
    remaining r (f :: fs) = (recheck r f (r.outcome f.text)).toList ++ remaining r fs := by
  rw [remaining, List.filterMap_cons, remaining]
  cases recheck r f (r.outcome f.text) <;> rfl

/-- Files of different paths are written once each. -/
theorem pairwise_changes (h : (files.map (·.path)).Pairwise Path.Before) :
    (changes r files).Pairwise fun v w => v.path.same w.path = false := by
  have hfiles : files.Pairwise fun f g => f.path.Before g.path := List.pairwise_map.mp h
  rw [changes, List.pairwise_map]
  exact (hfiles.sublist List.filter_sublist).imp Path.Before.same_eq

theorem isSome_recheck (r : Rule) (f : FileResult) (text : Text) :
    (recheck r f text).isSome = (r.check text).isSome := by
  rw [recheck, Option.isSome_map]

theorem length_remaining (r : Rule) (files : List FileResult) :
    (remaining r files).length =
      files.countP fun f => (r.check (r.outcome f.text)).isSome := by
  rw [remaining, List.length_filterMap_eq_countP]
  simp only [isSome_recheck]

theorem remaining_eq_nil_iff :
    remaining r files = [] ↔ ∀ f ∈ files, r.check (r.outcome f.text) = none := by
  rw [remaining, List.filterMap_eq_nil_iff]
  simp only [recheck, Option.map_eq_none_iff]

/-! ## One file -/

/-- Where no fix is offered, the check has found something. -/
theorem exists_check_of_fixed?_none {text : Text} (h : r.fixed? text = none) :
    ∃ d, r.check text = some d := by
  cases hc : r.check text with
  | some d => exact ⟨d, rfl⟩
  | none => simp [Rule.fixed?, Rule.pass, hc] at h

/-- A file without a fix is left as it was found, and that is how a second
check would find it. -/
theorem recheck_of_fixed?_none (hd : f.diagnostic = r.check f.text) (h : r.fixed? f.text = none) :
    recheck r f f.text = some f := by
  obtain ⟨d, hc⟩ := exists_check_of_fixed?_none h
  rw [recheck, hc, Option.map_some, ← hc, ← hd]

/-- A file that keeps its text costs nothing, and stays in the report if it
fails the check. -/
theorem fixFiles_keep (hd : f.diagnostic = r.check f.text) (h : r.outcome f.text = f.text) :
    fixFiles r t (f :: fs) =
      { fixFiles r t fs with
        left := (fixFiles r t fs).left.map
          ((recheck r f (r.outcome f.text)).toList ++ ·) } := by
  rw [h, fixFiles]
  cases hf : r.fixed? f.text with
  | none =>
      rw [recheck_of_fixed?_none hd hf]
      rfl
  | some text =>
      obtain rfl : text = f.text := by
        rw [← h, Rule.outcome, hf, Option.getD_some]
      simp only [if_pos]

theorem fixed?_of_outcome_ne {text : Text} (h : r.outcome text ≠ text) :
    r.fixed? text = some (r.outcome text) := by
  cases hf : r.fixed? text with
  | none => exact absurd (by rw [Rule.outcome, hf, Option.getD_none]) h
  | some x => rw [Rule.outcome, hf, Option.getD_some]

theorem fixFiles_change (h : r.outcome f.text ≠ f.text)
    (hw : t.replace f.path (r.outcome f.text) = (.ok (), u)) :
    fixFiles r t (f :: fs) =
      { fixFiles r u fs with
        written := f.path :: (fixFiles r u fs).written
        left := (fixFiles r u fs).left.map
          ((recheck r f (r.outcome f.text)).toList ++ ·) } := by
  rw [fixFiles, fixed?_of_outcome_ne h]
  simp only [if_neg h, hw]

theorem fixFiles_stop (h : r.outcome f.text ≠ f.text) {e : Failure}
    (hw : t.replace f.path (r.outcome f.text) = (.error e, u)) :
    fixFiles r t (f :: fs) = { tree := u, written := [], left := .error e } := by
  rw [fixFiles, fixed?_of_outcome_ne h]
  simp only [if_neg h, hw]

/-! ## All files -/

/-- A run in which every write succeeds. -/
theorem fixFiles_writes (hd : ∀ f ∈ files, f.diagnostic = r.check f.text)
    (hw : t.Writes (changes r files) u) :
    fixFiles r t files =
      { tree := u
        written := (changes r files).map (·.path)
        left := .ok (remaining r files) } := by
  induction files generalizing t with
  | nil =>
      cases hw
      rfl
  | cons f fs ih =>
      have hf : f.diagnostic = r.check f.text := hd f List.mem_cons_self
      have hfs : ∀ g ∈ fs, g.diagnostic = r.check g.text :=
        fun g hg => hd g (List.mem_cons_of_mem f hg)
      by_cases h : r.outcome f.text = f.text
      · rw [changes_keep h] at hw ⊢
        rw [fixFiles_keep hf h, ih hfs hw, remaining_cons]
        rfl
      · rw [changes_change h] at hw ⊢
        cases hw with
        | next hone hrest =>
            rw [fixFiles_change h hone, ih hfs hrest, remaining_cons]
            rfl

/-- A run that a failing write ends: the writes before it are made, and
nothing that comes after it has any effect. -/
theorem fixFiles_stops (hd : ∀ f ∈ files, f.diagnostic = r.check f.text)
    {before after : List Write} {w : Write} {e : Failure}
    (hc : changes r files = before ++ w :: after) (hb : t.Writes before u)
    (he : u.replace w.path w.text = (.error e, v)) :
    fixFiles r t files =
      { tree := v, written := before.map (·.path), left := .error e } := by
  induction files generalizing t before with
  | nil => exact absurd hc (by simp [changes])
  | cons f fs ih =>
      have hf : f.diagnostic = r.check f.text := hd f List.mem_cons_self
      have hfs : ∀ g ∈ fs, g.diagnostic = r.check g.text :=
        fun g hg => hd g (List.mem_cons_of_mem f hg)
      by_cases h : r.outcome f.text = f.text
      · rw [changes_keep h] at hc
        rw [fixFiles_keep hf h, ih hfs hc hb]
        rfl
      · rw [changes_change h] at hc
        cases hb with
        | done =>
            obtain ⟨rfl, -⟩ := List.cons.inj hc
            exact fixFiles_stop h he
        | next hone hrest =>
            obtain ⟨rfl, hrest'⟩ := List.cons.inj hc
            rw [fixFiles_change h hone, ih hfs hrest' hrest]
            rfl

/-! ## The command -/

theorem readText_of_read {content : ByteArray} {p : Path} (hr : t.read p = .ok content) :
    t.readText p = match Text.decode? content with
      | some text => .ok text
      | none => .error .notText := by
  rw [FileTree.readText, hr]
  cases hd : Text.decode? content with
  | some text => simp only [bind, Except.bind, hd, pure, Except.pure]
  | none =>
      simp only [bind, Except.bind, hd]
      rfl

/-- The files checked are some of those at the given paths, in order, each
with the text that was read, and the diagnostic of that. -/
theorem files_of_checkFiles {ps : List Path} (h : (checkFiles t r ps).files = .ok files) :
    (files.map (·.path)).Sublist ps ∧
      ∀ f ∈ files, t.readText f.path = .ok f.text ∧ f.diagnostic = r.check f.text := by
  induction ps generalizing files with
  | nil =>
      obtain rfl := Except.ok.inj h
      simp
  | cons p ps ih =>
      rw [checkFiles] at h
      cases hr : t.read p with
      | error fault =>
          rw [hr] at h
          cases h
      | ok bytes =>
          have hread := readText_of_read hr
          simp only [hr] at h
          cases ht : Text.decode? bytes with
          | none =>
              simp only [ht] at h
              obtain ⟨hpaths, hfiles⟩ := ih h
              exact ⟨hpaths.cons p, hfiles⟩
          | some text =>
              rw [ht] at hread
              simp only [ht] at h
              cases hrest : (checkFiles t r ps).files with
              | error e =>
                  rw [hrest] at h
                  cases h
              | ok rest =>
                  rw [hrest] at h
                  obtain rfl := Except.ok.inj h
                  obtain ⟨hpaths, hfiles⟩ := ih hrest
                  exact ⟨hpaths.cons_cons p, List.forall_mem_cons.mpr ⟨⟨hread, rfl⟩, hfiles⟩⟩

/-- The lines about files that were written. -/
def writtenLines (ws : List Write) : String :=
  String.join (ws.map fun w => writtenLine w.path)

variable {paths : List Path} {o : RuleOptions} {s : Survey}

/-- A survey was made with the rule of the configuration, of the files that
this has checked. -/
theorem exists_config_of_survey (hs : survey t paths o = .ok s) :
    ∃ c found, effectiveConfig t o = .ok c ∧ (c.rule .empty).1 = .ok s.rule ∧
      sources t paths c = .ok found ∧ s.checked = checkFiles t s.rule found := by
  rw [survey] at hs
  obtain ⟨c, hc, hs⟩ := bind_eq_ok_iff.mp hs
  obtain ⟨r, hr, hs⟩ := bind_eq_ok_iff.mp hs
  obtain ⟨found, hfound, hs⟩ := bind_eq_ok_iff.mp hs
  obtain rfl := Except.ok.inj hs
  exact ⟨c, found, hc, hr, hfound, rfl⟩

theorem checked_of_survey (hs : survey t paths o = .ok s) :
    ∃ ps, ps.Pairwise Path.Before ∧ s.checked = checkFiles t s.rule ps := by
  obtain ⟨c, found, -, -, hfound, hchecked⟩ := exists_config_of_survey hs
  obtain ⟨sel, -, hdiscover⟩ := bind_eq_ok_iff.mp hfound
  exact ⟨found, FileTree.discover_increasing hdiscover, hchecked⟩

/-- A survey finds files of different paths, in order, and has checked each
of their texts. -/
theorem files_of_survey (hs : survey t paths o = .ok s) (hf : s.checked.files = .ok files) :
    (files.map (·.path)).Pairwise Path.Before ∧
      ∀ f ∈ files, f.diagnostic = s.rule.check f.text := by
  obtain ⟨ps, hps, hchecked⟩ := checked_of_survey hs
  rw [hchecked] at hf
  obtain ⟨hpaths, hfiles⟩ := files_of_checkFiles hf
  exact ⟨hps.sublist hpaths, fun f hmem => (hfiles f hmem).2⟩

theorem readText_of_survey (hs : survey t paths o = .ok s) (hf : s.checked.files = .ok files)
    (hmem : f ∈ files) : t.readText f.path = .ok f.text := by
  obtain ⟨ps, -, hchecked⟩ := checked_of_survey hs
  rw [hchecked] at hf
  exact ((files_of_checkFiles hf).2 f hmem).1

/-- What the command does once the files are checked. -/
theorem fix_of_survey (hs : survey t paths o = .ok s) (hf : s.checked.files = .ok files) :
    fix t paths o =
      let repair := fixFiles s.rule t files
      let lines := String.join (repair.written.map writtenLine)
      let warnings := String.join (s.checked.skipped.map skipWarning)
      match repair.left with
      | .error e => { output := lines, warnings, tree := repair.tree, result := .error e }
      | .ok left =>
          let (text, result) := summary repair.written.length left
          { output := lines ++ text, warnings, tree := repair.tree, result } := by
  cases hl : (fixFiles s.rule t files).left with
  | error e => simp only [fix, hs, hf, hl]
  | ok left => simp only [fix, hs, hf, hl]

theorem summary_of_ne_nil {left : List FileResult} (n : Nat) (h : left ≠ []) :
    summary n left = ((Report.ofFiles left).toText, .error (.headersLeft left.length)) := by
  cases left with
  | nil => exact absurd rfl h
  | cons f left => rfl

/-- What a run over checked files has to leave: as far as the writes go, and
whether or not all of them succeed. -/
structure Accounts (t : FileTree) (r : Rule) (files : List FileResult) (out : Outcome) : Prop where
  /-- No two writes are to the same path. -/
  once : (changes r files).Pairwise fun v w => v.path.same w.path = false
  /-- The tree is what the writes leave. -/
  tree : ∀ u, t.Writes (changes r files) u → out.tree = u
  /-- The run ends well exactly when all outcomes are clean. -/
  success : ∀ u, t.Writes (changes r files) u →
    (out.result = .ok () ↔ ∀ f ∈ files, r.check (r.outcome f.text) = none)
  /-- Then it prints the number of writes. -/
  count : ∀ u, t.Writes (changes r files) u → out.result = .ok () →
    out.output = writtenLines (changes r files) ++
      (toString (changes r files).length ++ " file(s) fixed.\n")
  /-- Otherwise it fails with the number of outcomes that are not, and
  reports these. -/
  report : ∀ u, t.Writes (changes r files) u → out.result ≠ .ok () →
    out.result = .error (.headersLeft
      (files.countP fun f => (r.check (r.outcome f.text)).isSome)) ∧
    out.output = writtenLines (changes r files) ++ (Report.ofFiles (remaining r files)).toText
  /-- A write that fails ends the run, after the writes before it and
  without those after it. -/
  stop : ∀ before w after u e v, changes r files = before ++ w :: after →
    t.Writes before u → u.replace w.path w.text = (.error e, v) →
    out.tree = v ∧ out.result = .error e ∧ e.kind = .io ∧ out.output = writtenLines before

/-- The outcome of a run in which every write succeeds. -/
theorem fix_writes (hs : survey t paths o = .ok s) (hf : s.checked.files = .ok files)
    (hw : t.Writes (changes s.rule files) u) :
    (fix t paths o).tree = u ∧
      (fix t paths o).output = writtenLines (changes s.rule files) ++
        (summary (changes s.rule files).length (remaining s.rule files)).1 ∧
      (fix t paths o).result =
        (summary (changes s.rule files).length (remaining s.rule files)).2 := by
  have hrun := fix_of_survey hs hf
  simp only [fixFiles_writes (files_of_survey hs hf).2 hw, List.map_map, List.length_map]
    at hrun
  rw [hrun]
  exact ⟨rfl, rfl, rfl⟩

theorem result_summary_eq_ok_iff (n : Nat) (left : List FileResult) :
    (summary n left).2 = .ok () ↔ left = [] := by
  cases left with
  | nil => simp [summary]
  | cons f left => simp [summary]

/-- **The fix command accounts for every file.** -/
theorem fix_accounts (hs : survey t paths o = .ok s) (hf : s.checked.files = .ok files) :
    Accounts t s.rule files (fix t paths o) where
  once := pairwise_changes (files_of_survey hs hf).1
  tree := fun u hw => (fix_writes hs hf hw).1
  success := by
    intro u hw
    obtain ⟨-, -, hresult⟩ := fix_writes hs hf hw
    rw [hresult, result_summary_eq_ok_iff, remaining_eq_nil_iff]
  count := by
    intro u hw hok
    obtain ⟨-, houtput, hresult⟩ := fix_writes hs hf hw
    rw [hresult, result_summary_eq_ok_iff] at hok
    rw [houtput, hok]
    rfl
  report := by
    intro u hw hfail
    obtain ⟨-, houtput, hresult⟩ := fix_writes hs hf hw
    rw [hresult, ne_eq, result_summary_eq_ok_iff] at hfail
    rw [houtput, hresult, summary_of_ne_nil _ hfail, length_remaining]
    exact ⟨rfl, rfl⟩
  stop := by
    intro before w after u e v hc hb he
    have hrun := fix_of_survey hs hf
    simp only [fixFiles_stops (files_of_survey hs hf).2 hc hb he, List.map_map] at hrun
    rw [hrun]
    exact ⟨rfl, rfl, FileTree.kind_of_replace he, rfl⟩

/-! ### A run over two files -/

/-- A directory with a file that has its header and one that has none. -/
def twoFiles : FileTree :=
  { entries := [(["a.rs".toList], .file (Text.encode "// MIT".toList)),
      (["b.rs".toList], .file (Text.encode "foo();".toList))]
    current := [] }

/-- A template that does not satisfy the pattern. -/
def otherLicence : RuleOptions :=
  { config := none, pattern := some "MIT".toList, template := some "BSD".toList }

theorem resolve_twoFiles :
    twoFiles.resolve ⟨"a.rs".toList⟩ =
        .ok (.found ["a.rs".toList] (.file (Text.encode "// MIT".toList))) ∧
      twoFiles.resolve ⟨"b.rs".toList⟩ =
        .ok (.found ["b.rs".toList] (.file (Text.encode "foo();".toList))) := by
  constructor <;> cbv

theorem discover_twoFiles (sel : Selection) :
    twoFiles.discover sel [⟨"a.rs".toList⟩, ⟨"b.rs".toList⟩] =
      .ok [⟨"a.rs".toList⟩, ⟨"b.rs".toList⟩] := by
  simp only [FileTree.discover, List.mapM_cons, List.mapM_nil, FileTree.filesAt,
    resolve_twoFiles.1, resolve_twoFiles.2]
  cbv

theorem checkFiles_twoFiles (r : Rule) :
    (checkFiles twoFiles r [⟨"a.rs".toList⟩, ⟨"b.rs".toList⟩]).files =
      .ok [⟨⟨"a.rs".toList⟩, "// MIT".toList, r.check "// MIT".toList⟩,
        ⟨⟨"b.rs".toList⟩, "foo();".toList, r.check "foo();".toList⟩] := by
  simp only [checkFiles, FileTree.read, resolve_twoFiles.1, resolve_twoFiles.2]
  simp only [bind, Except.bind, pure, Except.pure, Text.decode?_encode]
  rfl

/-- Where there is no configuration, the options are those of the run. -/
theorem effectiveConfig_otherLicence (hnone : t.isFile configFile = false) :
    effectiveConfig t otherLicence =
      .ok (Config.default.override otherLicence.pattern otherLicence.template) := by
  have hvalid : (Config.default.override otherLicence.pattern
      otherLicence.template).validate = .ok () := by decide +kernel
  have hstored : storedConfig t otherLicence.config = .ok .default := by
    show (if t.isFile configFile = true then _ else _) = _
    rw [hnone]
    rfl
  rw [effectiveConfig, hstored]
  simp only [bind, Except.bind, hvalid]
  rfl

theorem effectiveConfig_twoFiles :
    effectiveConfig twoFiles otherLicence =
      .ok (Config.default.override otherLicence.pattern otherLicence.template) :=
  effectiveConfig_otherLicence (by cbv)

theorem exists_rule_twoFiles :
    ∃ r, ((Config.default.override otherLicence.pattern otherLicence.template).rule .empty).1 =
        .ok r ∧
      r.outcome "// MIT".toList = "// MIT".toList ∧
      r.outcome "foo();".toList = "/*\n * BSD\n */\n\nfoo();".toList := by
  have h : (((Config.default.override otherLicence.pattern
      otherLicence.template).rule .empty).1.toOption.map fun r =>
        (r.outcome "// MIT".toList, r.outcome "foo();".toList)) =
      some ("// MIT".toList, "/*\n * BSD\n */\n\nfoo();".toList) := by decide +kernel
  cases hr : ((Config.default.override otherLicence.pattern
      otherLicence.template).rule .empty).1 with
  | error e =>
      rw [hr] at h
      cases h
  | ok r =>
      rw [hr] at h
      obtain ⟨ha, hb⟩ := Prod.mk.inj (Option.some.inj h)
      exact ⟨r, rfl, ha, hb⟩

theorem exists_selection_twoFiles :
    ∃ sel, Selection.ofConfig
      (Config.default.override otherLicence.pattern otherLicence.template) = .ok sel := by
  have h : (Selection.ofConfig (Config.default.override otherLicence.pattern
      otherLicence.template)).toOption.isSome = true := by decide +kernel
  cases hsel : Selection.ofConfig
      (Config.default.override otherLicence.pattern otherLicence.template) with
  | error e =>
      rw [hsel] at h
      cases h
  | ok sel => exact ⟨sel, rfl⟩

/-- The header that the run inserts is not the one that is asked for: the
file is written, and the run fails all the same. -/
theorem fix_accounts_twoFiles :
    ∃ (s : Survey) (files : List FileResult) (u : FileTree),
      survey twoFiles [⟨"a.rs".toList⟩, ⟨"b.rs".toList⟩] otherLicence = .ok s ∧
      s.checked.files = .ok files ∧
      changes s.rule files = [⟨⟨"b.rs".toList⟩, "/*\n * BSD\n */\n\nfoo();".toList⟩] ∧
      twoFiles.Writes (changes s.rule files) u ∧
      Accounts twoFiles s.rule files
        (fix twoFiles [⟨"a.rs".toList⟩, ⟨"b.rs".toList⟩] otherLicence) := by
  obtain ⟨r, hr, ha, hb⟩ := exists_rule_twoFiles
  obtain ⟨sel, hsel⟩ := exists_selection_twoFiles
  have hs : survey twoFiles [⟨"a.rs".toList⟩, ⟨"b.rs".toList⟩] otherLicence =
      .ok ⟨r, checkFiles twoFiles r [⟨"a.rs".toList⟩, ⟨"b.rs".toList⟩]⟩ := by
    simp only [survey, effectiveConfig_twoFiles, hr, sources, hsel, discover_twoFiles, bind,
      Except.bind, pure, Except.pure]
  have hf := checkFiles_twoFiles r
  have hc : changes r [⟨⟨"a.rs".toList⟩, "// MIT".toList, r.check "// MIT".toList⟩,
        ⟨⟨"b.rs".toList⟩, "foo();".toList, r.check "foo();".toList⟩] =
      [⟨⟨"b.rs".toList⟩, "/*\n * BSD\n */\n\nfoo();".toList⟩] := by
    have hne : ¬ "/*\n * BSD\n */\n\nfoo();".toList = "foo();".toList := by decide
    simp only [changes, List.filter, List.map, ha, hb, hne, ne_eq, not_true_eq_false,
      not_false_eq_true, decide_true, decide_false]
  have hw : (twoFiles.replace ⟨"b.rs".toList⟩ "/*\n * BSD\n */\n\nfoo();".toList).1 =
      .ok () := by cbv
  have hwrites : ∃ u, twoFiles.Writes
      [⟨⟨"b.rs".toList⟩, "/*\n * BSD\n */\n\nfoo();".toList⟩] u :=
    ⟨_, .next (Prod.ext hw rfl) .done⟩
  obtain ⟨u, hu⟩ := hwrites
  rw [← hc] at hu
  exact ⟨_, _, u, hs, hf, hc, hu, fix_accounts hs hf⟩

end Command

end HeaderCheck
