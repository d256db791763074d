/-
# What the check command answers

The command finds files, reads them in order, and reports on those that are
text.  That its verdict is exact is put together from three facts: a valid
configuration has a rule (`Config.exists_rule`); whatever was found can be
read, unless its path is too long (`read_of_foundAt`); and the report has a
violation for each text that fails the check, at its place and in its order
(`forall₂_violations`).

The second has to go back to how a path was found.  The paths that are found
below a directory were put together from the names on the way, and nothing
but the length of what comes out is against following them
(`FileTree.Specifies.walk_below`).  But the length is: a directory can be named by
a path that is not too long, and the files in it by paths that are.  The run
then ends at the first of these.
-/
import HeaderCheck.Command.Check
import HeaderCheck.Proofs.Components
import HeaderCheck.Proofs.Discovery
import HeaderCheck.Proofs.Repair
import HeaderCheck.Proofs.Valid

namespace HeaderCheck

/-! ## Reading what was found -/

namespace FileTree

variable {t : FileTree} {s : Selection} {relative p g : Path} {l : Location} {names : List Text}

/-- Only its length is against a path without the null character. -/
theorem checkPath_eq {path : Text} (hnull : '\x00' ∉ path) (hne : path ≠ []) :
    checkPath path = if maxPathWidth < path.width then .error .nameTooLong else .ok () := by
  rw [checkPath, if_neg (by simpa using hnull), if_neg hne]

/-- A file to be checked can be read by its path, if that is not too long. -/
theorem Specifies.read_below (hw : t.WellFormed) (hp : t.resolve p = .ok (.found l .directory))
    (h : t.Specifies s p relative l names) :
    ∃ content, t.read (p.below names) =
      if maxPathWidth < (p.below names).spelling.width then .error .nameTooLong
      else .ok content := by
  obtain ⟨content, hwalk⟩ := h.walk_below hw hp
  have hnull : '\x00' ∉ (p.below names).spelling := by
    intro hmem
    rcases Path.mem_below hmem with hroot | hsep | ⟨m, hm, hin⟩
    · exact (checkPath_eq_ok_iff.mp (resolve_eq_ok_iff.mp hp).1).1 hroot
    · exact absurd hsep (by decide)
    · exact (h.isName hw m hm).noNull hin
  have hne : (p.below names).spelling ≠ [] := by
    intro hnil
    have hlong := Path.width_below (p := p) fun m hm => (h.isName hw m hm).nonempty
    have hlength := List.length_pos_of_ne_nil h.nonempty
    rw [hnil, Text.width_nil] at hlong
    omega
  refine ⟨content, ?_⟩
  rw [read, resolve, checkPath_eq hnull hne, hwalk]
  split <;> rfl

/-- What is found at a named path can be read, if its path is not too
long. -/
theorem read_of_foundAt (hw : t.WellFormed) (h : t.FoundAt s p g) :
    ∃ content, t.read g =
      if maxPathWidth < g.spelling.width then .error .nameTooLong else .ok content := by
  rcases h with ⟨hfile, rfl⟩ | ⟨l, names, hp, rfl, hkeeps⟩
  · obtain ⟨l, content, hl⟩ := isFile_iff.mp hfile
    refine ⟨content, ?_⟩
    obtain ⟨-, -, hshort⟩ := checkPath_eq_ok_iff.mp (resolve_eq_ok_iff.mp hl).1
    rw [if_neg (Nat.not_lt.mpr hshort), read, hl]
    rfl
  · exact hkeeps.read_below hw hp

end FileTree

namespace Command

variable {t : FileTree} {r : Rule} {p : Path} {ps paths found : List Path} {o : RuleOptions}
  {c : Config}

/-! ## The texts of a run -/

/-- The files among some that are texts, with these. -/
def texts (t : FileTree) (ps : List Path) : List (Path × Text) :=
  ps.filterMap fun p => (t.readText p).toOption.map (p, ·)

/-- The files among some that are no texts. -/
def noTexts (t : FileTree) (ps : List Path) : List Path :=
  ps.filter fun p => t.readText p = .error .notText

/-- A text as a checked file. -/
def checkedText (r : Rule) (x : Path × Text) : FileResult :=
  { path := x.1, text := x.2, diagnostic := r.check x.2 }

theorem mem_texts_iff {text : Text} :
    (p, text) ∈ texts t ps ↔ p ∈ ps ∧ t.readText p = .ok text := by
  rw [texts, List.mem_filterMap]
  constructor
  · rintro ⟨q, hq, h⟩
    obtain ⟨u, hu, heq⟩ := Option.map_eq_some_iff.mp h
    obtain ⟨rfl, rfl⟩ := Prod.mk.inj heq
    refine ⟨hq, ?_⟩
    cases hr : t.readText q with
    | error fault =>
        rw [hr] at hu
        cases hu
    | ok v =>
        rw [hr] at hu
        rw [Option.some.inj hu]
  · rintro ⟨hp, h⟩
    exact ⟨p, hp, by rw [h]; rfl⟩

/-- Each file that can be read is a text or none, and not both. -/
theorem mem_noTexts_iff (h : ∀ p ∈ ps, ∃ content, t.read p = .ok content) :
    p ∈ noTexts t ps ↔ p ∈ ps ∧ ∀ text, (p, text) ∉ texts t ps := by
  simp only [noTexts, List.mem_filter, decide_eq_true_eq, mem_texts_iff, not_and]
  refine and_congr_right fun hp => ?_
  obtain ⟨content, hr⟩ := h p hp
  rw [readText_of_read hr]
  cases Text.decode? content with
  | some text =>
      constructor
      · intro hno
        cases hno
      · intro hno
        exact absurd rfl (hno text hp)
  | none => simp

/-! ### One file -/

variable {content : ByteArray} {text : Text}

theorem texts_cons (ps : List Path) (h : t.readText p = .ok text) :
    texts t (p :: ps) = (p, text) :: texts t ps ∧ noTexts t (p :: ps) = noTexts t ps := by
  constructor
  · rw [texts, List.filterMap_cons, h]
    rfl
  · rw [noTexts, List.filter_cons_of_neg (by simp [h]), noTexts]

theorem noTexts_cons (ps : List Path) (h : t.readText p = .error .notText) :
    texts t (p :: ps) = texts t ps ∧ noTexts t (p :: ps) = p :: noTexts t ps := by
  constructor
  · rw [texts, List.filterMap_cons, h]
    rfl
  · rw [noTexts, List.filter_cons_of_pos (by simp [h]), noTexts]

theorem checkFiles_text (hr : t.read p = .ok content) (hd : Text.decode? content = some text) :
    checkFiles t r (p :: ps) =
      { checkFiles t r ps with
        files := (checkFiles t r ps).files.map (checkedText r (p, text) :: ·) } := by
  simp only [checkFiles, hr, hd]
  rfl

theorem checkFiles_noText (hr : t.read p = .ok content) (hd : Text.decode? content = none) :
    checkFiles t r (p :: ps) =
      { checkFiles t r ps with skipped := p :: (checkFiles t r ps).skipped } := by
  simp only [checkFiles, hr, hd]

/-! ### All files -/

/-- Files that can be read are checked or skipped, in their order, and the
run goes on behind them. -/
theorem checkFiles_append (h : ∀ p ∈ ps, ∃ content, t.read p = .ok content) (rest : List Path) :
    checkFiles t r (ps ++ rest) =
      { files := (checkFiles t r rest).files.map ((texts t ps).map (checkedText r) ++ ·)
        skipped := noTexts t ps ++ (checkFiles t r rest).skipped } := by
  induction ps with
  | nil =>
      have hid : (checkFiles t r rest).files.map (fun fs => fs) = (checkFiles t r rest).files := by
        cases (checkFiles t r rest).files <;> rfl
      simp only [texts, noTexts, List.filterMap_nil, List.filter_nil, List.map_nil,
        List.nil_append, hid]
  | cons p ps ih =>
      have hps := ih fun q hq => h q (List.mem_cons_of_mem p hq)
      obtain ⟨content, hr⟩ := h p List.mem_cons_self
      have ht := readText_of_read hr
      rw [List.cons_append]
      cases hd : Text.decode? content with
      | some text =>
          rw [hd] at ht
          obtain ⟨htexts, hno⟩ := texts_cons ps ht
          rw [checkFiles_text hr hd, hps, htexts, hno]
          cases (checkFiles t r rest).files <;> rfl
      | none =>
          rw [hd] at ht
          obtain ⟨htexts, hno⟩ := noTexts_cons ps ht
          rw [checkFiles_noText hr hd, hps, htexts, hno]
          rfl

theorem checkFiles_readable (h : ∀ p ∈ ps, ∃ content, t.read p = .ok content) :
    checkFiles t r ps =
      { files := .ok ((texts t ps).map (checkedText r)), skipped := noTexts t ps } := by
  have hrun := checkFiles_append (r := r) h []
  simpa [checkFiles, Except.map] using hrun

/-- The first file that cannot be read ends the run. -/
theorem checkFiles_stops {before after : List Path} {fault : FileTree.Fault}
    (h : ∀ q ∈ before, ∃ content, t.read q = .ok content) (hp : t.read p = .error fault) :
    checkFiles t r (before ++ p :: after) =
      { files := .error (.sourceUnreadable p fault), skipped := noTexts t before } := by
  rw [checkFiles_append h]
  simp [checkFiles, hp, Except.map]

/-! ## The report -/

/-- A violation tells of a text what the check has found in it. -/
structure Tells (r : Rule) (x : Path × Text) (v : Violation) : Prop where
  path : v.path = x.1.slashed
  found : ∃ d, r.check x.2 = some d ∧ v.position = x.2.position d.start ∧ v.finding = d.finding ∧
    (v.fixable = true ↔ ∃ fix, d.fix = some fix)

/-- The texts that fail the check. -/
def failing (r : Rule) (xs : List (Path × Text)) : List (Path × Text) :=
  xs.filter fun x => (r.check x.2).isSome

/-- The report has a violation for each text that fails, in their order. -/
theorem forall₂_violations (xs : List (Path × Text)) :
    List.Forall₂ (Tells r) (failing r xs) (Report.ofFiles (xs.map (checkedText r))).violations := by
  induction xs with
  | nil => exact .nil
  | cons x xs ih =>
      rw [failing, Report.ofFiles, List.map_cons, List.filterMap_cons]
      cases hc : r.check x.2 with
      | none =>
          rw [List.filter_cons_of_neg (by simp [hc])]
          simp only [checkedText, FileResult.violation?, hc, Option.map_none]
          exact ih
      | some d =>
          rw [List.filter_cons_of_pos (by simp [hc])]
          simp only [checkedText, FileResult.violation?, hc, Option.map_some]
          refine .cons ⟨rfl, d, hc, rfl, rfl, ?_⟩ ih
          exact Option.isSome_iff_exists

/-! ## The answer -/

theorem validate_of_effectiveConfig (h : effectiveConfig t o = .ok c) : c.validate = .ok () := by
  rw [effectiveConfig] at h
  obtain ⟨stored, -, h⟩ := bind_eq_ok_iff.mp h
  obtain ⟨⟨⟩, hv, h⟩ := bind_eq_ok_iff.mp h
  obtain rfl := Except.ok.inj h
  exact hv

theorem survey_eq (hc : effectiveConfig t o = .ok c) (hr : (c.rule .empty).1 = .ok r)
    (hf : sources t paths c = .ok found) :
    survey t paths o = .ok ⟨r, checkFiles t r found⟩ := by
  simp only [survey, hc, hr, hf, bind, Except.bind]
  rfl

/-- What is answered about files that can all be read: the run passes if
every text does, and names their number if some do not; the report counts
the texts and tells of those that fail; and there is a warning for each file
that is no text. -/
structure Answers (t : FileTree) (r : Rule) (found : List Path) (json : Bool) (out : Outcome) :
    Prop where
  tree : out.tree = t
  passes : out.result = .ok () ↔ ∀ x ∈ texts t found, r.check x.2 = none
  fails : failing r (texts t found) ≠ [] →
    out.result = .error (.headersMissing (failing r (texts t found)).length)
  report : ∃ report : Report,
    out.output = (if json then report.toJson ++ "\n" else report.toText) ∧
      report.checked = (texts t found).length ∧
      List.Forall₂ (Tells r) (failing r (texts t found)) report.violations
  warnings : out.warnings = String.join ((noTexts t found).map skipWarning)

theorem failing_eq_nil_iff {xs : List (Path × Text)} :
    failing r xs = [] ↔ ∀ x ∈ xs, r.check x.2 = none := by
  simp [failing]

theorem check_of_readable (hs : survey t paths o = .ok ⟨r, checkFiles t r found⟩)
    (h : ∀ p ∈ found, ∃ content, t.read p = .ok content) (json : Bool) :
    Answers t r found json (check t paths o json) := by
  have hlength := (forall₂_violations (r := r) (texts t found)).length_eq
  rw [checkFiles_readable h] at hs
  simp only [check, hs]
  refine ⟨rfl, ?_, ?_, ⟨_, rfl, by rw [Report.ofFiles, List.length_map], forall₂_violations _⟩, rfl⟩
  · rw [← failing_eq_nil_iff, ← List.length_eq_zero_iff, hlength, List.length_eq_zero_iff]
    simp only [verdict, Report.passed, List.isEmpty_iff]
    split
    next hnil => exact iff_of_true rfl hnil
    next hne =>
      refine iff_of_false ?_ hne
      intro herror
      cases herror
  · intro hne
    have hv : (Report.ofFiles ((texts t found).map (checkedText r))).passed ≠ true := by
      rw [Report.passed, Ne, List.isEmpty_iff, ← List.length_eq_zero_iff, ← hlength,
        List.length_eq_zero_iff]
      exact hne
    rw [verdict, if_neg hv, hlength]

/-- A file that cannot be read ends the run, whatever comes behind it. -/
theorem check_of_unreadable {before after : List Path} {fault : FileTree.Fault}
    (hs : survey t paths o = .ok ⟨r, checkFiles t r (before ++ p :: after)⟩)
    (h : ∀ q ∈ before, ∃ content, t.read q = .ok content) (hp : t.read p = .error fault)
    (json : Bool) :
    check t paths o json =
      { output := ""
        warnings := String.join ((noTexts t before).map skipWarning)
        tree := t
        result := .error (.sourceUnreadable p fault) } := by
  rw [checkFiles_stops h hp] at hs
  simp only [check, hs, stopped]

theorem exists_selection_of_sources (h : sources t paths c = .ok found) :
    ∃ sel, Selection.ofConfig c = .ok sel ∧ t.discover sel paths = .ok found :=
  bind_eq_ok_iff.mp h

/-- What was found can be read, if its path is not too long. -/
theorem read_of_sources (hw : t.WellFormed) (hf : sources t paths c = .ok found) (hp : p ∈ found) :
    ∃ content, t.read p =
      if FileTree.maxPathWidth < p.spelling.width then .error .nameTooLong else .ok content := by
  obtain ⟨sel, -, hd⟩ := exists_selection_of_sources hf
  obtain ⟨q, -, hq⟩ := FileTree.foundAt_of_discover hw hd hp
  exact FileTree.read_of_foundAt hw hq

theorem exists_content_of_sources (hw : t.WellFormed) (hf : sources t paths c = .ok found)
    (hp : p ∈ found) (hshort : ¬ FileTree.maxPathWidth < p.spelling.width) :
    ∃ content, t.read p = .ok content := by
  obtain ⟨content, hr⟩ := read_of_sources hw hf hp
  exact ⟨content, by rw [hr, if_neg hshort]⟩

theorem read_too_long_of_sources (hw : t.WellFormed) (hf : sources t paths c = .ok found)
    (hp : p ∈ found) (hlong : FileTree.maxPathWidth < p.spelling.width) :
    t.read p = .error .nameTooLong := by
  obtain ⟨content, hr⟩ := read_of_sources hw hf hp
  rw [hr, if_pos hlong]

theorem result_check_json :
    (check t paths o true).result = (check t paths o false).result := by
  cases hs : survey t paths o with
  | error e => simp only [check, hs]
  | ok s => cases hf : s.checked.files <;> simp only [check, hs, hf]

/-- **The verdict of the check command is exact.**  Once the configuration
is known and the files are found, the rule can be compiled, and either all
files can be read, each is a text or none, and the answer is as it should
be, or the first path that is too long ends the run.  How the report is
written makes no difference to how the run ends. -/
theorem check_exact (hw : t.WellFormed) (hc : effectiveConfig t o = .ok c)
    (hf : sources t paths c = .ok found) :
    found.Pairwise Path.Before ∧
      (∃ pattern, Pattern.compile c.pattern = .ok pattern ∧
        match found.find? fun p => FileTree.maxPathWidth < p.spelling.width with
        | none =>
            (∀ p ∈ found, ∃ content, t.read p = .ok content) ∧
              (∀ p, p ∈ noTexts t found ↔ p ∈ found ∧ ∀ text, (p, text) ∉ texts t found) ∧
              ∀ json, Answers t ⟨pattern, c.template, c.blankLine⟩ found json
                (check t paths o json)
        | some p => ∀ json, (check t paths o json).tree = t ∧ (check t paths o json).output = "" ∧
            (check t paths o json).result = .error (.sourceUnreadable p .nameTooLong)) ∧
      (check t paths o true).result = (check t paths o false).result := by
  obtain ⟨sel, -, hd⟩ := exists_selection_of_sources hf
  obtain ⟨pattern, hpattern, hrule⟩ := Config.exists_rule (validate_of_effectiveConfig hc)
  have hs := survey_eq hc hrule hf
  refine ⟨FileTree.discover_increasing hd, ⟨pattern, hpattern, ?_⟩, result_check_json⟩
  split
  next hshort =>
    have hread : ∀ p ∈ found, ∃ content, t.read p = .ok content := fun p hp =>
      exists_content_of_sources hw hf hp (by simpa using List.find?_eq_none.mp hshort p hp)
    exact ⟨hread, fun p => mem_noTexts_iff hread, check_of_readable hs hread⟩
  next p hfind =>
    obtain ⟨hlong, before, after, rfl, hbefore⟩ := List.find?_eq_some_iff_append.mp hfind
    intro json
    have hread : ∀ q ∈ before, ∃ content, t.read q = .ok content := fun q hq =>
      exists_content_of_sources hw hf (List.mem_append_left _ hq) (by simpa using hbefore q hq)
    have hp := read_too_long_of_sources hw hf (p := p) (by simp) (by simpa using hlong)
    rw [check_of_unreadable hs hread hp json]
    exact ⟨rfl, rfl, rfl⟩

/-! ### A run over two files -/

theorem texts_twoFiles :
    texts twoFiles [⟨"a.rs".toList⟩, ⟨"b.rs".toList⟩] =
      [(⟨"a.rs".toList⟩, "// MIT".toList), (⟨"b.rs".toList⟩, "foo();".toList)] := by
  have ha : twoFiles.readText ⟨"a.rs".toList⟩ = .ok "// MIT".toList := by
    rw [FileTree.readText, FileTree.read, resolve_twoFiles.1]
    simp only [bind, Except.bind, pure, Except.pure, Text.decode?_encode]
  have hb : twoFiles.readText ⟨"b.rs".toList⟩ = .ok "foo();".toList := by
    rw [FileTree.readText, FileTree.read, resolve_twoFiles.2]
    simp only [bind, Except.bind, pure, Except.pure, Text.decode?_encode]
  rw [(texts_cons _ ha).1, (texts_cons _ hb).1]
  rfl

/-- One file has its header and the other has none, and the run says so. -/
theorem check_exact_twoFiles :
    twoFiles.WellFormed ∧
      (check twoFiles [⟨"a.rs".toList⟩, ⟨"b.rs".toList⟩] otherLicence true).result =
        .error (.headersMissing 1) ∧
      (check twoFiles [⟨"a.rs".toList⟩, ⟨"b.rs".toList⟩] otherLicence true).result =
        (check twoFiles [⟨"a.rs".toList⟩, ⟨"b.rs".toList⟩] otherLicence false).result := by
  have hw : twoFiles.WellFormed := by decide
  obtain ⟨sel, hsel⟩ := exists_selection_twoFiles
  have hf : sources twoFiles [⟨"a.rs".toList⟩, ⟨"b.rs".toList⟩]
      (Config.default.override otherLicence.pattern otherLicence.template) =
        .ok [⟨"a.rs".toList⟩, ⟨"b.rs".toList⟩] := by
    simp only [sources, hsel, discover_twoFiles, bind, Except.bind]
  obtain ⟨-, ⟨pattern, hpattern, -, -, hanswers⟩, hjson⟩ :=
    check_exact hw effectiveConfig_twoFiles hf
  refine ⟨hw, ?_, hjson⟩
  have hcompiled : (Pattern.compile "MIT".toList).toOption.map (fun pattern =>
      (failing ⟨pattern, some "BSD".toList, false⟩
        [(⟨"a.rs".toList⟩, "// MIT".toList), (⟨"b.rs".toList⟩, "foo();".toList)]).length) =
      some 1 := by decide +kernel
  have hmit : Pattern.compile "MIT".toList = .ok pattern := hpattern
  rw [hmit] at hcompiled
  have hcount : (failing ⟨pattern, some "BSD".toList, false⟩
      [(⟨"a.rs".toList⟩, "// MIT".toList), (⟨"b.rs".toList⟩, "foo();".toList)]).length = 1 :=
    Option.some.inj hcompiled
  have hfails := (hanswers true).fails
  rw [texts_twoFiles] at hfails
  refine (hfails ?_).trans (congrArg (Except.error ∘ Failure.headersMissing) hcount)
  exact List.ne_nil_of_length_pos (hcount ▸ Nat.one_pos)

/-! ### Paths that are too long -/

/-- The answer is as it should be, however long the paths of the files are
that were found. -/
def ChecksExactly (t : FileTree) (paths : List Path) (o : RuleOptions) : Prop :=
  ∀ c found, effectiveConfig t o = .ok c → sources t paths c = .ok found →
    ∃ pattern, Pattern.compile c.pattern = .ok pattern ∧
      ∀ json, Answers t ⟨pattern, c.template, c.blankLine⟩ found json (check t paths o json)

/-- A file with its header, and a configuration that excludes nothing. -/
def oneFile : FileTree :=
  { entries := [(["a.rs".toList], .file (Text.encode "// MIT".toList)),
      ([".filehead.yaml".toList], .file (Text.encode "exclude: []".toList))]
    current := [] }

/-- The current directory with slashes behind it. -/
def slashesBehind (n : Nat) : Path :=
  ⟨['.'] ++ '/' :: List.replicate n '/'⟩

theorem names_slashes (n : Nat) : Path.names ⟨List.replicate n '/'⟩ = [] := by
  induction n with
  | zero => rfl
  | succ n ih =>
      have h := Path.names_of_slash [] (List.replicate n '/')
      rw [ih] at h
      exact h

theorem width_slashesBehind (n : Nat) : (slashesBehind n).spelling.width = n + 2 := by
  have h : Text.width (List.replicate n '/') = n := by
    induction n with
    | zero => rfl
    | succ n ih =>
        rw [List.replicate_succ, Text.width_cons, ih]
        exact Nat.add_comm 1 n
  have hdot : Text.width ['.'] = 1 := rfl
  have hslash : '/'.utf8Size = 1 := rfl
  rw [slashesBehind, Text.width_append, hdot, Text.width_cons, hslash, h]
  omega

theorem getLast?_slashesBehind (n : Nat) : (slashesBehind n).spelling.getLast? = some '/' := by
  rw [slashesBehind, ← List.replicate_succ, List.getLast?_append, List.getLast?_replicate]
  rfl

theorem resolve_slashesBehind (t : FileTree) {n : Nat} (h : n + 2 ≤ FileTree.maxPathWidth) :
    t.resolve (slashesBehind n) = .ok (.found t.current .directory) := by
  have hnull : '\x00' ∉ (slashesBehind n).spelling := by
    simp [slashesBehind, List.mem_replicate]
  have hnames : (slashesBehind n).names = [['.']] := by
    rw [slashesBehind, Path.names_of_slash, names_slashes]
    rfl
  refine FileTree.resolve_eq_ok_iff.mpr ⟨?_, ?_⟩
  · rw [FileTree.checkPath_eq hnull (by simp [slashesBehind]), width_slashesBehind,
      if_neg (Nat.not_lt.mpr h)]
  · rw [FileTree.steps_eq, hnames, if_pos (getLast?_slashesBehind n)]
    simp only [List.cons_append, List.nil_append, FileTree.walk_here, FileTree.walk]
    rfl

/-- The configuration of a run over that tree. -/
def excludingNothing : Config :=
  { Config.default with pattern := "MIT".toList, exclude := [] }

/-- The options of that run. -/
def onlyPattern : RuleOptions :=
  { config := none, pattern := some "MIT".toList, template := none }

theorem effectiveConfig_oneFile : effectiveConfig oneFile onlyPattern = .ok excludingNothing := by
  have hresolve : oneFile.resolve configFile =
      .ok (.found [".filehead.yaml".toList] (.file (Text.encode "exclude: []".toList))) := by cbv
  have hparse : Config.parse "exclude: []".toList = .ok { Config.default with exclude := [] } := by
    decide +kernel
  have hvalid : excludingNothing.validate = .ok () := by decide +kernel
  have hread : readConfig oneFile configFile = .ok { Config.default with exclude := [] } := by
    simp only [readConfig, FileTree.readText, FileTree.read, hresolve, bind, Except.bind, pure,
      Except.pure, Text.decode?_encode, Except.mapError, hparse]
  have hstored : storedConfig oneFile onlyPattern.config =
      .ok { Config.default with exclude := [] } := by
    have hfile : oneFile.isFile configFile = true := FileTree.isFile_iff.mpr ⟨_, _, hresolve⟩
    simp only [storedConfig, onlyPattern, hfile, if_true, hread]
  have hoverride : ({ Config.default with exclude := [] } : Config).override onlyPattern.pattern
      onlyPattern.template = excludingNothing := rfl
  rw [effectiveConfig, hstored]
  simp only [bind, Except.bind, hoverride, hvalid]
  rfl

theorem ofConfig_excludingNothing :
    Selection.ofConfig excludingNothing =
      .ok { extensions := excludingNothing.foldedExtensions, exclude := [] } := rfl

theorem extension?_slashesBehind (n : Nat) :
    ((slashesBehind n).join "a.rs".toList).extension? = some "rs".toList := by
  have hname : FileTree.IsName "a.rs".toList := by decide
  rw [Path.extension?, Path.fileName?_join hname.isPiece]
  rfl

/-- The file is found below the current directory, however that is spelled,
by a path that is longer. -/
theorem exists_found_oneFile {n : Nat} (h : n + 2 ≤ FileTree.maxPathWidth) :
    ∃ f found, sources oneFile [slashesBehind n] excludingNothing = .ok (f :: found) ∧
      ∀ g ∈ f :: found, n + 2 < g.spelling.width := by
  have hw : oneFile.WellFormed := by decide
  have hroot := resolve_slashesBehind oneFile h
  have hdir : oneFile.isDirectory (slashesBehind n) = true :=
    FileTree.isDirectory_iff.mpr ⟨_, hroot⟩
  have hnamed : ∀ p ∈ [slashesBehind n],
      oneFile.isFile p = true ∨ oneFile.isDirectory p = true := by
    simp [hdir]
  obtain ⟨found, hrun, hfound, hall⟩ := FileTree.exists_discover hw
    ⟨excludingNothing.foldedExtensions, []⟩ hnamed
  have hkeeps : oneFile.Keeps ⟨excludingNothing.foldedExtensions, []⟩ (slashesBehind n) ⟨[]⟩ []
      ["a.rs".toList] := by
    refine FileTree.keeps_singleton_iff.mpr ⟨⟨Text.encode "// MIT".toList, rfl⟩,
      ⟨_, extension?_slashesBehind n, List.mem_map_of_mem (by decide)⟩, ?_⟩
    rintro ⟨g, hg, -⟩
    exact absurd hg List.not_mem_nil
  obtain ⟨f, hf, -⟩ := hall _ ⟨_, List.mem_singleton_self _, Or.inr ⟨_, _, hroot, rfl, hkeeps⟩⟩
  obtain ⟨f', found', rfl⟩ := List.exists_cons_of_ne_nil (List.ne_nil_of_mem hf)
  refine ⟨f', found', ?_, ?_⟩
  · rw [sources, ofConfig_excludingNothing]
    exact hrun
  · intro g hg
    obtain ⟨p, hp, ⟨hfile, -⟩ | ⟨l, names, -, rfl, hnames⟩⟩ := hfound g hg
    · obtain rfl := List.mem_singleton.mp hp
      obtain ⟨l, content, hl⟩ := FileTree.isFile_iff.mp hfile
      rw [hroot] at hl
      cases hl
    · obtain rfl := List.mem_singleton.mp hp
      have hlong := Path.width_below (p := slashesBehind n)
        fun m hm => (hnames.isName hw m hm).nonempty
      have hpos := List.length_pos_of_ne_nil hnames.nonempty
      rw [width_slashesBehind] at hlong
      omega

/-- The run over a directory whose path is just not too long ends without a
verdict, though the one file there has its header. -/
theorem not_checksExactly_oneFile :
    ¬ ChecksExactly oneFile [slashesBehind 4093] onlyPattern := by
  intro h
  have hw : oneFile.WellFormed := by decide
  obtain ⟨f, found, hf, hlong⟩ := exists_found_oneFile (n := 4093) (by decide)
  obtain ⟨pattern, -, hanswers⟩ := h _ _ effectiveConfig_oneFile hf
  have hunread : ∀ g ∈ f :: found, oneFile.read g = .error .nameTooLong :=
    fun g hg => read_too_long_of_sources hw hf hg (hlong g hg)
  -- no text was read, so the run would have to pass
  have hpasses : (check oneFile [slashesBehind 4093] onlyPattern false).result = .ok () := by
    refine (hanswers false).passes.mpr fun x hx => ?_
    obtain ⟨p, text⟩ := x
    obtain ⟨hp, ht⟩ := mem_texts_iff.mp hx
    rw [FileTree.readText, hunread p hp] at ht
    cases ht
  have hvalid := validate_of_effectiveConfig effectiveConfig_oneFile
  obtain ⟨_, -, hrule⟩ := Config.exists_rule hvalid
  have hs : survey oneFile [slashesBehind 4093] onlyPattern =
      .ok ⟨_, checkFiles oneFile _ ([] ++ f :: found)⟩ := survey_eq effectiveConfig_oneFile hrule hf
  have hbefore : ∀ q ∈ ([] : List Path), ∃ content, oneFile.read q = .ok content := by simp
  rw [check_of_unreadable hs hbefore (hunread f List.mem_cons_self) false] at hpasses
  cases hpasses

end Command

end HeaderCheck
