/-
# Exactly the specified files are found

What a walk of a directory should keep can be said without the walk: the
names that lead to a file through directories, where no glob excludes the
file or a directory on the way (`Specifies`).  What it does keep are those of
them where the directories on the way can be opened too (`Keeps`,
`mem_filesBelow_iff`).  This is by induction on its depth, since a list of
names is kept if its first name is entered and the others are kept from there
(`keeps_cons_iff`).  The two agree where no directory has too long a path for
it (`YieldsAll`).

The depth of the walk is bounded by the number of entries of the tree.  No
name is lost by that: the places on the way to a file are different entries
(`Specifies.length_le`).

What is kept goes by the path of the directory and the names behind it, and
this path leads to the file again (`Specifies.walk_below`).

The rest is bookkeeping.  Named files are taken as they are, a named path
that is neither a file nor a directory ends the search, and of the paths
that mean the same one stays (`discover_exact`).
-/
import Mathlib
import HeaderCheck.Proofs.PathOrder
import HeaderCheck.Proofs.Ways

namespace HeaderCheck

/-! ## What is excluded -/

namespace Selection

/-- A glob matches the walked path of a file or its path from the named
directory. -/
def ExcludesFile (s : Selection) (walked relative : Path) : Prop :=
  ∃ g ∈ s.exclude, ∃ p ∈ [walked, relative], g.accepts p.normalized = true

/-- A glob matches one of the two paths of a directory, as it is or with a
slash behind it. -/
def ExcludesDirectory (s : Selection) (walked relative : Path) : Prop :=
  ∃ g ∈ s.exclude, ∃ p ∈ [walked, relative],
    g.accepts p.normalized = true ∨ g.accepts (p.normalized ++ ['/']) = true

/-- The extension of a path is configured. -/
def Configured (s : Selection) (p : Path) : Prop :=
  ∃ e, p.extension? = some e ∧ Unicode.lowercase e ∈ s.extensions

variable {s : Selection} {walked relative p : Path}

theorem selects_iff : s.selects p = true ↔ s.Configured p := by
  rw [selects, Configured]
  cases p.extension? with
  | none => simp
  | some e => simp

theorem excludes_iff : s.excludes p = true ↔ ∃ g ∈ s.exclude, g.accepts p.normalized = true := by
  rw [excludes, matchesText, List.any_eq_true]

theorem excludesDirectory_iff :
    s.excludesDirectory p = true ↔ ∃ g ∈ s.exclude,
      g.accepts p.normalized = true ∨ g.accepts (p.normalized ++ ['/']) = true := by
  rw [excludesDirectory, matchesText, matchesText, Bool.or_eq_true, List.any_eq_true,
    List.any_eq_true]
  constructor
  · rintro (⟨g, hg, h⟩ | ⟨g, hg, h⟩)
    · exact ⟨g, hg, Or.inl h⟩
    · exact ⟨g, hg, Or.inr h⟩
  · rintro ⟨g, hg, h | h⟩
    · exact Or.inl ⟨g, hg, h⟩
    · exact Or.inr ⟨g, hg, h⟩

theorem skips_file_iff (content : ByteArray) :
    s.skips (.file content) walked relative = true ↔ s.ExcludesFile walked relative := by
  rw [skips, Bool.or_eq_true, excludes_iff, excludes_iff]
  · constructor
    · rintro (⟨g, hg, h⟩ | ⟨g, hg, h⟩)
      · exact ⟨g, hg, walked, by simp, h⟩
      · exact ⟨g, hg, relative, by simp, h⟩
    · rintro ⟨g, hg, p, hp, h⟩
      rcases List.mem_pair.mp hp with rfl | rfl
      · exact Or.inl ⟨g, hg, h⟩
      · exact Or.inr ⟨g, hg, h⟩
  · simp

theorem skips_directory_iff :
    s.skips .directory walked relative = true ↔ s.ExcludesDirectory walked relative := by
  rw [skips, Bool.or_eq_true, excludesDirectory_iff, excludesDirectory_iff]
  constructor
  · rintro (⟨g, hg, h⟩ | ⟨g, hg, h⟩)
    · exact ⟨g, hg, walked, by simp, h⟩
    · exact ⟨g, hg, relative, by simp, h⟩
  · rintro ⟨g, hg, p, hp, h⟩
    rcases List.mem_pair.mp hp with rfl | rfl
    · exact Or.inl ⟨g, hg, h⟩
    · exact Or.inr ⟨g, hg, h⟩

end Selection

namespace FileTree

variable {t : FileTree} {s : Selection} {walked relative f g p r : Path} {l : Location}
  {name : Text} {names rest : List Text} {ps paths : List Path} {n : Nat}

/-! ## What a walk keeps -/

/-- Names that lead from a directory to a file to be checked: all places on
the way are directories, and neither they nor the file are excluded.  The
paths are those by which the directory itself goes. -/
structure Specifies (t : FileTree) (s : Selection) (walked relative : Path) (l : Location)
    (names : List Text) : Prop where
  nonempty : names ≠ []
  file : ∃ content, t.at? (l ++ names) = some (.file content)
  configured : s.Configured (walked.below names)
  kept : ¬ s.ExcludesFile (walked.below names) (relative.below names)
  way : ∀ above rest, names = above ++ rest → above ≠ [] → rest ≠ [] →
    t.at? (l ++ above) = some .directory ∧
      ¬ s.ExcludesDirectory (walked.below above) (relative.below above)

/-- The directories between a directory and what some names below it lead to
can be opened. -/
def OpensAlong (walked : Path) (names : List Text) : Prop :=
  ∀ above rest, names = above ++ rest → above ≠ [] → rest ≠ [] →
    opens (walked.below above) = true

/-- Names that a walk keeps: the file is to be checked, and the walk gets
there. -/
structure Keeps (t : FileTree) (s : Selection) (walked relative : Path) (l : Location)
    (names : List Text) : Prop extends Specifies t s walked relative l names where
  opened : OpensAlong walked names

/-- One name has no place on its way. -/
theorem forall_between_singleton {P : List Text → Prop} :
    ∀ above rest, [name] = above ++ rest → above ≠ [] → rest ≠ [] → P above := by
  intro above rest h ha hr
  have hlength := congrArg List.length h
  have ha' := List.length_pos_of_ne_nil ha
  have hr' := List.length_pos_of_ne_nil hr
  rw [List.length_singleton, List.length_append] at hlength
  omega

/-- The places on the way of several names are that of the first, and those
on the way of the others behind it. -/
theorem forall_between_cons_iff {P : List Text → Prop} (hn : names ≠ []) :
    (∀ above rest, name :: names = above ++ rest → above ≠ [] → rest ≠ [] → P above) ↔
      P [name] ∧ ∀ above rest, names = above ++ rest → above ≠ [] → rest ≠ [] →
        P (name :: above) := by
  constructor
  · intro h
    refine ⟨h [name] names rfl (by simp) hn, fun above rest hsplit _ hr => ?_⟩
    exact h (name :: above) rest (by rw [hsplit]; rfl) (by simp) hr
  · rintro ⟨hfirst, hothers⟩ above rest hsplit ha hr
    obtain ⟨c, above, rfl⟩ := List.exists_cons_of_ne_nil ha
    obtain ⟨rfl, hsplit'⟩ := List.cons.inj hsplit
    cases above with
    | nil => exact hfirst
    | cons d above => exact hothers (d :: above) rest hsplit' (by simp) hr

theorem keeps_singleton_iff :
    t.Keeps s walked relative l [name] ↔
      (∃ content, t.at? (l ++ [name]) = some (.file content)) ∧ s.Configured (walked.join name) ∧
        ¬ s.ExcludesFile (walked.join name) (relative.join name) := by
  constructor
  · intro h
    exact ⟨h.file, h.configured, h.kept⟩
  · rintro ⟨hfile, hconfigured, hkept⟩
    exact ⟨⟨by simp, hfile, hconfigured, hkept, forall_between_singleton⟩,
      forall_between_singleton⟩

/-- Names are kept if the first of them is entered, and the others are kept
from there. -/
theorem keeps_cons_iff (hr : rest ≠ []) :
    t.Keeps s walked relative l (name :: rest) ↔
      t.at? (l ++ [name]) = some .directory ∧
        ¬ s.ExcludesDirectory (walked.join name) (relative.join name) ∧
        opens (walked.join name) = true ∧
        t.Keeps s (walked.join name) (relative.join name) (l ++ [name]) rest := by
  have hplace : ∀ above, l ++ name :: above = l ++ [name] ++ above := by simp
  constructor
  · intro h
    obtain ⟨content, hfile⟩ := h.file
    obtain ⟨⟨hat, hdir⟩, hway⟩ := (forall_between_cons_iff hr).mp h.way
    obtain ⟨hopens, hopened⟩ := (forall_between_cons_iff hr).mp h.opened
    refine ⟨hat, hdir, hopens, ⟨hr, ⟨content, hplace rest ▸ hfile⟩, h.configured, h.kept, ?_⟩,
      hopened⟩
    intro above rest' hsplit ha hr'
    rw [← hplace]
    exact hway above rest' hsplit ha hr'
  · rintro ⟨hat, hdir, hopens, h⟩
    obtain ⟨content, hfile⟩ := h.file
    refine ⟨⟨by simp, ⟨content, hplace rest ▸ hfile⟩, h.configured, h.kept, ?_⟩,
      (forall_between_cons_iff hr).mpr ⟨hopens, h.opened⟩⟩
    refine (forall_between_cons_iff hr).mpr ⟨⟨hat, hdir⟩, fun above rest' hsplit ha hr' => ?_⟩
    rw [hplace]
    exact h.way above rest' hsplit ha hr'

/-- One level of a walk: it keeps the files of the directory that may be kept,
and what it keeps below the directories that it enters. -/
theorem mem_filesBelow_succ_iff (hw : t.WellFormed) (depth : Nat) :
    f ∈ t.filesBelow s (depth + 1) walked relative l ↔
      (∃ name, f = walked.join name ∧ t.Keeps s walked relative l [name]) ∨
        ∃ name, t.at? (l ++ [name]) = some .directory ∧
          ¬ s.ExcludesDirectory (walked.join name) (relative.join name) ∧
          opens (walked.join name) = true ∧
          f ∈ t.filesBelow s depth (walked.join name) (relative.join name) (l ++ [name]) := by
  rw [filesBelow, List.mem_flatMap]
  constructor
  · rintro ⟨⟨name, e⟩, hchild, hf⟩
    rw [hw.mem_children_iff] at hchild
    obtain ⟨hskip, hf⟩ := List.mem_ite_nil_left.mp hf
    cases e with
    | directory =>
        obtain ⟨hopens, hf⟩ := List.mem_ite_nil_right.mp hf
        exact Or.inr ⟨name, hchild, mt Selection.skips_directory_iff.mpr hskip, hopens, hf⟩
    | file content =>
        obtain ⟨hselects, hf⟩ := List.mem_ite_nil_right.mp hf
        have hkept := mt (Selection.skips_file_iff content).mpr hskip
        refine Or.inl ⟨name, List.mem_singleton.mp hf, keeps_singleton_iff.mpr ?_⟩
        exact ⟨⟨content, hchild⟩, Selection.selects_iff.mp hselects, hkept⟩
    | link target => exact absurd hf List.not_mem_nil
  · rintro (⟨name, rfl, h⟩ | ⟨name, hat, hdir, hopens, hf⟩)
    · obtain ⟨⟨content, hat⟩, hconfigured, hkept⟩ := keeps_singleton_iff.mp h
      refine ⟨(name, .file content), hw.mem_children_iff.mpr hat, List.mem_ite_nil_left.mpr ?_⟩
      refine ⟨mt (Selection.skips_file_iff content).mp hkept, List.mem_ite_nil_right.mpr ?_⟩
      exact ⟨Selection.selects_iff.mpr hconfigured, List.mem_singleton_self _⟩
    · refine ⟨(name, .directory), hw.mem_children_iff.mpr hat, List.mem_ite_nil_left.mpr ?_⟩
      exact ⟨mt Selection.skips_directory_iff.mp hdir, List.mem_ite_nil_right.mpr ⟨hopens, hf⟩⟩

/-- The walk keeps what can be reached within its depth. -/
theorem mem_filesBelow_iff (hw : t.WellFormed) (depth : Nat) :
    f ∈ t.filesBelow s depth walked relative l ↔
      ∃ names, names.length ≤ depth ∧ f = walked.below names ∧
        t.Keeps s walked relative l names := by
  induction depth generalizing walked relative l with
  | zero =>
      rw [filesBelow]
      constructor
      · intro h
        exact absurd h List.not_mem_nil
      · rintro ⟨names, hlength, -, h⟩
        exact absurd (List.length_eq_zero_iff.mp (Nat.le_zero.mp hlength)) h.nonempty
  | succ depth ih =>
      rw [mem_filesBelow_succ_iff hw]
      constructor
      · rintro (⟨name, rfl, h⟩ | ⟨name, hat, hdir, hopens, hf⟩)
        · exact ⟨[name], by simp, rfl, h⟩
        · obtain ⟨names, hlength, rfl, h⟩ := ih.mp hf
          refine ⟨name :: names, Nat.succ_le_succ hlength, rfl, ?_⟩
          exact (keeps_cons_iff h.nonempty).mpr ⟨hat, hdir, hopens, h⟩
      · rintro ⟨names, hlength, rfl, h⟩
        obtain ⟨name, rest, rfl⟩ := List.exists_cons_of_ne_nil h.nonempty
        by_cases hr : rest = []
        · subst hr
          exact Or.inl ⟨name, rfl, h⟩
        · obtain ⟨hat, hdir, hopens, hrest⟩ := (keeps_cons_iff hr).mp h
          refine Or.inr ⟨name, hat, hdir, hopens, ih.mpr ?_⟩
          exact ⟨rest, Nat.le_of_succ_le_succ hlength, rfl, hrest⟩

/-- The places on the way to a file are different entries of the tree, so
there are no more of them than entries. -/
theorem Specifies.length_le (h : t.Specifies s walked relative l names) :
    names.length ≤ t.entries.length := by
  have hplace : ∀ i < names.length, l ++ names.take (i + 1) ∈ t.entries.map (·.1) := by
    intro i hi
    have hne : names.take (i + 1) ≠ [] := by
      intro hnil
      have hlength := congrArg List.length hnil
      rw [List.length_take, List.length_nil] at hlength
      omega
    have hat : ∃ e, t.at? (l ++ names.take (i + 1)) = some e := by
      by_cases hlast : names.drop (i + 1) = []
      · obtain ⟨content, hfile⟩ := h.file
        have htake : names.take (i + 1) = names := by
          have happ := List.take_append_drop (i + 1) names
          rwa [hlast, List.append_nil] at happ
        exact ⟨_, htake ▸ hfile⟩
      · exact ⟨_, (h.way _ _ (List.take_append_drop (i + 1) names).symm hne hlast).1⟩
    obtain ⟨e, he⟩ := hat
    exact List.mem_map.mpr ⟨_, mem_entries_of_at? (by simp [hne]) he, rfl⟩
  have hnodup : ((List.range names.length).map fun i => l ++ names.take (i + 1)).Nodup := by
    refine List.Nodup.map_on (fun i hi j hj hij => ?_) List.nodup_range
    have hlength := congrArg List.length hij
    rw [List.mem_range] at hi hj
    simp only [List.length_append, List.length_take] at hlength
    omega
  have hsub : ((List.range names.length).map fun i => l ++ names.take (i + 1)) ⊆
      t.entries.map (·.1) := by
    intro k hk
    obtain ⟨i, hi, rfl⟩ := List.mem_map.mp hk
    exact hplace i (List.mem_range.mp hi)
  have hle := (List.subperm_of_subset hnodup hsub).length_le
  simpa using hle

/-! ## Where specified names lead -/

/-- A way of directories leads on without links. -/
theorem leads_of_directories (hplain : ∀ name ∈ names, IsPlain name)
    (h : ∀ above rest, names = above ++ rest → above ≠ [] → t.at? (l ++ above) = some .directory) :
    t.Leads n l names n (l ++ names) := by
  induction names generalizing l with
  | nil =>
      rw [List.append_nil]
      exact .done
  | cons name names ih =>
      refine .enter (hplain name List.mem_cons_self) (h [name] names rfl (by simp)) ?_
      have hrest : t.Leads n (l ++ [name]) names n (l ++ [name] ++ names) := by
        refine ih (fun m hm => hplain m (List.mem_cons_of_mem name hm))
          fun above rest hsplit ha => ?_
        rw [List.append_assoc]
        exact h (name :: above) rest (by rw [hsplit]; rfl) (by simp)
      rwa [List.append_assoc] at hrest

/-- Names that lead to a file are names of entries. -/
theorem Specifies.isName (hw : t.WellFormed) (h : t.Specifies s walked relative l names) :
    ∀ name ∈ names, IsName name := by
  obtain ⟨content, hat⟩ := h.file
  intro name hname
  exact hw.named _ (mem_entries_of_at? (by simp [h.nonempty]) hat) name
    (List.mem_append_right l hname)

/-- A path to a directory leads there by its names, whether a slash follows
them or not. -/
theorem exists_leads_names (h : t.resolve p = .ok (.found l .directory)) :
    ∃ k, t.Leads maxLinks (t.origin p.spelling) p.names k l := by
  obtain ⟨-, hwalk⟩ := resolve_eq_ok_iff.mp h
  rw [steps_eq] at hwalk
  split at hwalk
  next =>
    obtain ⟨k, d, hlead⟩ := exists_leads hwalk (Or.inl (List.cons_ne_nil _ _))
    rw [hlead.walk_append (Or.inr rfl), walk_here, walk] at hwalk
    obtain ⟨rfl, -⟩ := Target.found.inj (Except.ok.inj hwalk)
    exact ⟨k, hlead⟩
  next =>
    rw [List.append_nil] at hwalk
    exact walk_eq_directory_iff.mp hwalk

/-- The path of a file to be checked leads there, however long it is. -/
theorem Specifies.walk_below (hw : t.WellFormed) (hp : t.resolve p = .ok (.found l .directory))
    (h : t.Specifies s p relative l names) :
    ∃ content, t.walk true maxLinks (t.origin (p.below names).spelling)
      (steps (p.below names).spelling) = .ok (.found (l ++ names) (.file content)) := by
  have hnames := h.isName hw
  obtain ⟨content, hat⟩ := h.file
  obtain ⟨above, name, rfl⟩ : ∃ above name, names = above ++ [name] := by
    rcases List.eq_nil_or_concat names with hnil | ⟨above, name, hconcat⟩
    · exact absurd hnil h.nonempty
    · exact ⟨above, name, by rw [hconcat, List.concat_eq_append]⟩
  have hname := hnames name (by simp)
  -- below the root there are directories only, so all links that it leaves are left at the end
  obtain ⟨k, hlead⟩ := exists_leads_names hp
  have hway : t.Leads k l above k (l ++ above) := by
    refine leads_of_directories (fun m hm => (hnames m (List.mem_append_left _ hm)).plain) ?_
    intro front back hsplit hfront
    exact (h.way front (back ++ [name]) (by rw [hsplit, List.append_assoc]) hfront (by simp)).1
  have hslash : (p.below (above ++ [name])).spelling.getLast? ≠ some '/' := by
    rw [Path.below_concat, Path.getLast?_join hname.nonempty]
    exact fun hlast => hname.noSlash (List.mem_of_getLast? hlast)
  refine ⟨content, ?_⟩
  rw [steps_eq, if_neg hslash, List.append_nil,
    Path.names_below fun m hm => ⟨(hnames m hm).nonempty, (hnames m hm).noSlash⟩,
    Path.origin_below t fun m hm => (hnames m hm).noSlash, hlead.walk_append (Or.inr rfl),
    hway.walk_append (Or.inr rfl), walk_plain hname.plain, List.append_assoc, hat]
  rfl

/-! ## Named paths -/

theorem isFile_iff : t.isFile p = true ↔ ∃ l c, t.resolve p = .ok (.found l (.file c)) := by
  rw [isFile, lookup?]
  cases t.resolve p with
  | error fault => simp
  | ok x =>
      cases x with
      | absent l => simp
      | found l e => cases e <;> simp

theorem isDirectory_iff :
    t.isDirectory p = true ↔ ∃ l, t.resolve p = .ok (.found l .directory) := by
  rw [isDirectory, lookup?]
  cases t.resolve p with
  | error fault => simp
  | ok x =>
      cases x with
      | absent l => simp
      | found l e => cases e <;> simp

/-- A path that is specified at a named path: that itself, if it names a file,
and those of the files to be checked below it, if it names a directory. -/
def SpecifiedAt (t : FileTree) (s : Selection) (p g : Path) : Prop :=
  (t.isFile p = true ∧ g = p) ∨
    ∃ l names, t.resolve p = .ok (.found l .directory) ∧ g = p.below names ∧
      t.Specifies s p ⟨[]⟩ l names

/-- A path that is found at a named path: that itself, if it names a file,
and what a walk keeps, if it names a directory. -/
def FoundAt (t : FileTree) (s : Selection) (p g : Path) : Prop :=
  (t.isFile p = true ∧ g = p) ∨
    ∃ l names, t.resolve p = .ok (.found l .directory) ∧ g = p.below names ∧
      t.Keeps s p ⟨[]⟩ l names

/-- A walk from a named path yields all that is below: no directory there is
walked by a path that is too long to open it. -/
def YieldsAll (t : FileTree) (p : Path) : Prop :=
  ∀ l names, t.resolve p = .ok (.found l .directory) → names ≠ [] →
    t.at? (l ++ names) = some .directory → opens (p.below names) = true

/-- Then what is specified is what is found. -/
theorem YieldsAll.foundAt_iff (h : t.YieldsAll p) : t.FoundAt s p g ↔ t.SpecifiedAt s p g := by
  refine or_congr_right (exists_congr fun l => exists_congr fun names => ?_)
  refine and_congr_right fun hl => and_congr_right fun _ => ⟨Keeps.toSpecifies, fun hs => ⟨hs, ?_⟩⟩
  intro above rest hsplit ha hr
  exact h l above hl ha (hs.way above rest hsplit ha hr).1

theorem filesAt_of_named (hw : t.WellFormed)
    (h : t.isFile p = true ∨ t.isDirectory p = true) :
    ∃ fs, t.filesAt s p = .ok fs ∧ ∀ g, g ∈ fs ↔ t.FoundAt s p g := by
  rw [filesAt]
  rcases h with h | h
  · obtain ⟨l, c, hl⟩ := isFile_iff.mp h
    refine ⟨[p], by rw [hl], fun g => ?_⟩
    simp [FoundAt, h, hl]
  · obtain ⟨l, hl⟩ := isDirectory_iff.mp h
    have hno : t.isFile p = false := by
      rw [← Bool.not_eq_true, isFile_iff]
      simp [hl]
    refine ⟨_, by rw [hl], fun g => ?_⟩
    rw [mem_filesBelow_iff hw]
    constructor
    · rintro ⟨names, -, hg, hkeeps⟩
      exact Or.inr ⟨l, names, hl, hg, hkeeps⟩
    · rintro (⟨hfile, -⟩ | ⟨l', names, hl', hg, hkeeps⟩)
      · rw [hno] at hfile
        cases hfile
      · rw [hl] at hl'
        obtain ⟨rfl, -⟩ := Target.found.inj (Except.ok.inj hl')
        exact ⟨names, hkeeps.length_le, hg, hkeeps⟩

theorem filesAt_of_unnamed (hf : t.isFile p = false) (hd : t.isDirectory p = false) :
    t.filesAt s p = .error (.pathMissing p) := by
  have hfile := isFile_iff.not.mp (Bool.not_eq_true _ ▸ hf)
  have hdir := isDirectory_iff.not.mp (Bool.not_eq_true _ ▸ hd)
  rw [filesAt]
  split
  next l c hl => exact absurd ⟨l, c, hl⟩ hfile
  next l hl => exact absurd ⟨l, hl⟩ hdir
  next => rfl

/-- If all paths name something, what is found at each of them is found. -/
theorem mapM_filesAt (hw : t.WellFormed)
    (h : ∀ p ∈ paths, t.isFile p = true ∨ t.isDirectory p = true) :
    ∃ found, paths.mapM (t.filesAt s) = .ok found ∧
      ∀ g, g ∈ found.flatten ↔ ∃ p ∈ paths, t.FoundAt s p g := by
  have heach : ∀ p ∈ paths, ∃ fs, t.filesAt s p = .ok fs ∧ ∀ g, g ∈ fs ↔ t.FoundAt s p g :=
    fun p hp => filesAt_of_named hw (h p hp)
  obtain ⟨found, hfound⟩ := exists_mapM_eq_ok fun p hp => (heach p hp).imp fun _ hfs => hfs.1
  refine ⟨found, hfound, fun g => ?_⟩
  rw [mem_flatten_of_mapM hfound]
  refine exists_congr fun p => and_congr_right fun hp => ?_
  obtain ⟨fs, hfs, hmem⟩ := heach p hp
  constructor
  · rintro ⟨gs, hgs, hg⟩
    obtain rfl := Except.ok.inj (hfs.symm.trans hgs)
    exact (hmem g).mp hg
  · intro hg
    exact ⟨fs, hfs, (hmem g).mpr hg⟩

/-- If one of them does not, the first such ends the search. -/
theorem mapM_filesAt_error (hw : t.WellFormed) (hp : p ∈ paths) (hf : t.isFile p = false)
    (hd : t.isDirectory p = false) :
    ∃ q ∈ paths, t.isFile q = false ∧ t.isDirectory q = false ∧
      paths.mapM (t.filesAt s) = .error (.pathMissing q) := by
  cases hrun : paths.mapM (t.filesAt s) with
  | ok found =>
      obtain ⟨fs, hfs⟩ := exists_of_mapM_eq_ok hrun hp
      rw [filesAt_of_unnamed hf hd] at hfs
      cases hfs
  | error e =>
      obtain ⟨q, hq, herror⟩ := exists_of_mapM_eq_error hrun
      have hunnamed : ¬ (t.isFile q = true ∨ t.isDirectory q = true) := by
        intro hnamed
        obtain ⟨fs, hfs, -⟩ := filesAt_of_named (s := s) hw hnamed
        rw [hfs] at herror
        cases herror
      rw [not_or, Bool.not_eq_true, Bool.not_eq_true] at hunnamed
      rw [filesAt_of_unnamed hunnamed.1 hunnamed.2] at herror
      exact ⟨q, hq, hunnamed.1, hunnamed.2, congrArg Except.error (Except.error.inj herror).symm⟩

/-! ## All paths -/

theorem dropRepeats_subset (previous : Option Path) : dropRepeats previous ps ⊆ ps := by
  induction ps generalizing previous with
  | nil => simp [dropRepeats]
  | cons p ps ih =>
      rw [dropRepeats]
      split
      · exact List.subset_cons_of_subset p (ih previous)
      · exact List.cons_subset_cons p (ih (some p))

/-- A path that is dropped means the same as one that stays. -/
theorem exists_same_dropRepeats (previous : Option Path) (h : p ∈ ps) :
    ∃ q ∈ previous.toList ++ dropRepeats previous ps, q.same p = true := by
  induction ps generalizing previous with
  | nil => exact absurd h List.not_mem_nil
  | cons q ps ih =>
      rw [dropRepeats]
      split
      next hsame =>
        rcases List.mem_cons.mp h with rfl | h
        · obtain ⟨q', rfl, hqq⟩ := (Option.any_eq_true _ _).mp hsame
          exact ⟨q', List.mem_append_left _ (by simp), hqq⟩
        · exact ih previous h
      next =>
        rcases List.mem_cons.mp h with rfl | h
        · exact ⟨p, List.mem_append_right _ List.mem_cons_self, by simp [Path.same]⟩
        · obtain ⟨q', hq', hqq⟩ := ih (some q) h
          exact ⟨q', List.mem_append_right _ hq', hqq⟩

theorem kind_of_filesAt {e : Failure} (h : t.filesAt s p = .error e) : e.kind = .io := by
  rw [filesAt] at h
  split at h
  next => cases h
  next => cases h
  next =>
    obtain rfl := Except.error.inj h
    rfl

theorem kind_of_discover {e : Failure} (h : t.discover s paths = .error e) : e.kind = .io := by
  rw [discover] at h
  rcases bind_eq_error_iff.mp h with hm | ⟨found, -, h⟩
  · obtain ⟨p, -, hp⟩ := exists_of_mapM_eq_error hm
    exact kind_of_filesAt hp
  · cases h

/-- What is found at the named paths is found, up to how it is spelled, and
nothing else is. -/
theorem exists_discover (hw : t.WellFormed) (s : Selection)
    (h : ∀ p ∈ paths, t.isFile p = true ∨ t.isDirectory p = true) :
    ∃ found, t.discover s paths = .ok found ∧ (∀ g ∈ found, ∃ p ∈ paths, t.FoundAt s p g) ∧
      ∀ g, (∃ p ∈ paths, t.FoundAt s p g) → ∃ q ∈ found, q.same g = true := by
  obtain ⟨all, hall, hmem⟩ := mapM_filesAt (s := s) hw h
  refine ⟨dropRepeats none (all.flatten.mergeSort Path.le), by rw [discover, hall]; rfl, ?_, ?_⟩
  · intro g hg
    exact (hmem g).mp (List.mem_mergeSort.mp (dropRepeats_subset none hg))
  · intro g hg
    exact exists_same_dropRepeats none (List.mem_mergeSort.mpr ((hmem g).mpr hg))

/-- Whatever is found is found at one of the named paths. -/
theorem foundAt_of_discover {found : List Path} (hw : t.WellFormed)
    (h : t.discover s paths = .ok found) (hg : g ∈ found) : ∃ p ∈ paths, t.FoundAt s p g := by
  have hnamed : ∀ p ∈ paths, t.isFile p = true ∨ t.isDirectory p = true := by
    intro p hp
    by_contra hno
    rw [not_or, Bool.not_eq_true, Bool.not_eq_true] at hno
    obtain ⟨q, -, -, -, herror⟩ := mapM_filesAt_error (s := s) hw hp hno.1 hno.2
    rw [discover, herror] at h
    cases h
  obtain ⟨all, hall, hfound, -⟩ := exists_discover hw s hnamed
  obtain rfl := Except.ok.inj (h.symm.trans hall)
  exact hfound g hg

/-- **Exactly the specified files are found**, up to how their paths are
spelled and as far as directories can be opened; and a path that names nothing
ends the search. -/
theorem discover_exact (hw : t.WellFormed) (s : Selection) (paths : List Path) :
    ((∀ p ∈ paths, t.isFile p = true ∨ t.isDirectory p = true) →
      ∃ files, t.discover s paths = .ok files ∧
        (∀ f, (∃ g ∈ files, g.same f = true) ↔
          ∃ g, g.same f = true ∧ ∃ p ∈ paths, t.FoundAt s p g) ∧
        ((∀ p ∈ paths, t.YieldsAll p) → ∀ f, (∃ g ∈ files, g.same f = true) ↔
          ∃ g, g.same f = true ∧ ∃ p ∈ paths, t.SpecifiedAt s p g)) ∧
      ∀ p ∈ paths, t.isFile p = false → t.isDirectory p = false →
        ∃ e, t.discover s paths = .error e ∧ e.kind = .io := by
  constructor
  · intro h
    obtain ⟨found, hrun, hfound, hall⟩ := exists_discover hw s h
    have hexact : ∀ f, (∃ g ∈ found, g.same f = true) ↔
        ∃ g, g.same f = true ∧ ∃ p ∈ paths, t.FoundAt s p g := by
      intro f
      constructor
      · rintro ⟨g, hg, hsame⟩
        exact ⟨g, hsame, hfound g hg⟩
      · rintro ⟨g, hsame, hg⟩
        obtain ⟨q, hq, hqg⟩ := hall g hg
        exact ⟨q, hq, Path.same_trans hqg hsame⟩
    refine ⟨found, hrun, hexact, fun hall f => (hexact f).trans ?_⟩
    exact exists_congr fun g => and_congr_right fun _ =>
      exists_congr fun p => and_congr_right fun hp => (hall p hp).foundAt_iff
  · intro p hp hf hd
    obtain ⟨q, -, -, -, herror⟩ := mapM_filesAt_error (s := s) hw hp hf hd
    exact ⟨.pathMissing q, by rw [discover, herror]; rfl, rfl⟩

/-! ### A directory with a pruned one in it -/

/-- A directory with a source file, a file that has no extension, a link to
that, and a directory with two more source files. -/
def nested : FileTree :=
  { entries := [(["src".toList], .directory),
      (["src".toList, "README".toList], .file (Text.encode "foo".toList)),
      (["src".toList, "a.rs".toList], .file (Text.encode "foo();".toList)),
      (["src".toList, "gen".toList], .directory),
      (["src".toList, "gen".toList, "b.rs".toList], .file (Text.encode "bar();".toList)),
      (["src".toList, "gen".toList, "c.rs".toList], .file (Text.encode "baz();".toList)),
      (["src".toList, "l.rs".toList], .link "README".toList)]
    current := [] }

/-- Source files, except those in a directory of a given name. -/
def nestedSelection : Selection :=
  { extensions := ["rs".toList].map Unicode.lowercase
    exclude := (Glob.ofText "gen".toList).toOption.toList }

theorem resolve_nested :
    nested.resolve ⟨"src".toList⟩ = .ok (.found ["src".toList] .directory) ∧
      nested.resolve ⟨"src/gen/b.rs".toList⟩ =
        .ok (.found ["src".toList, "gen".toList, "b.rs".toList]
          (.file (Text.encode "bar();".toList))) := by
  constructor <;> cbv

/-- The one directory below the named one can be opened. -/
theorem yieldsAll_nested : nested.YieldsAll ⟨"src".toList⟩ := by
  intro l names hl hn hat
  rw [resolve_nested.1] at hl
  obtain ⟨rfl, -⟩ := Target.found.inj (Except.ok.inj hl)
  have hmem := mem_entries_of_at? (by simp) hat
  simp only [nested, List.mem_cons, Prod.mk.injEq, reduceCtorEq, and_false, and_true,
    List.not_mem_nil, or_false, false_or, List.singleton_append, List.cons.injEq, true_and] at hmem
  obtain rfl := hmem.resolve_left hn
  decide

/-- The walk finds one file and does not enter the inner directory. -/
theorem filesBelow_nested :
    nested.filesBelow nestedSelection nested.entries.length ⟨"src".toList⟩ ⟨[]⟩ ["src".toList] =
      [⟨"src/a.rs".toList⟩] := by
  have hchildren : nested.children ["src".toList] =
      [("README".toList, .file (Text.encode "foo".toList)),
        ("a.rs".toList, .file (Text.encode "foo();".toList)), ("gen".toList, .directory),
        ("l.rs".toList, .link "README".toList)] := rfl
  have hreadme : nestedSelection.selects (Path.join ⟨"src".toList⟩ "README".toList) = false := rfl
  have hkept : ∀ content, nestedSelection.skips (.file content)
      (Path.join ⟨"src".toList⟩ "a.rs".toList) (Path.join ⟨[]⟩ "a.rs".toList) = false := by
    intro content
    have hwalked : nestedSelection.excludes (Path.join ⟨"src".toList⟩ "a.rs".toList) = false := by
      decide +kernel
    have hrelative : nestedSelection.excludes (Path.join ⟨[]⟩ "a.rs".toList) = false := by
      decide +kernel
    simp only [Selection.skips, hwalked, hrelative, Bool.or_self]
  have hselects : nestedSelection.selects (Path.join ⟨"src".toList⟩ "a.rs".toList) = true :=
    Selection.selects_iff.mpr ⟨"rs".toList, by decide, List.mem_map_of_mem (by decide)⟩
  have hpruned : nestedSelection.skips .directory (Path.join ⟨"src".toList⟩ "gen".toList)
      (Path.join ⟨[]⟩ "gen".toList) = true := by
    decide +kernel
  show filesBelow nested nestedSelection (6 + 1) _ _ _ = _
  rw [filesBelow, hchildren, List.flatMap_cons, List.flatMap_cons, List.flatMap_cons,
    List.flatMap_cons, List.flatMap_nil]
  -- names and entries out of their pairs, before the conditions are compared
  dsimp only
  simp only [hreadme, hkept, hselects, hpruned, Bool.false_eq_true, if_false, if_true, ite_self]
  rfl

/-- The source file of the directory is found.  The inner directory is not
entered and the link is not followed, but the file in the inner directory that
is named is found too. -/
theorem discover_exact_nested :
    let paths := [⟨"src".toList⟩, ⟨"src/gen/b.rs".toList⟩]
    nested.WellFormed ∧ (∀ p ∈ paths, nested.isFile p = true ∨ nested.isDirectory p = true) ∧
      (∀ p ∈ paths, nested.YieldsAll p) ∧
      nested.discover nestedSelection paths =
        .ok [⟨"src/a.rs".toList⟩, ⟨"src/gen/b.rs".toList⟩] ∧
      ∃ files, nested.discover nestedSelection paths = .ok files ∧
        (∀ f, (∃ g ∈ files, g.same f = true) ↔
          ∃ g, g.same f = true ∧ ∃ p ∈ paths, nested.FoundAt nestedSelection p g) ∧
        ∀ f, (∃ g ∈ files, g.same f = true) ↔
          ∃ g, g.same f = true ∧ ∃ p ∈ paths, nested.SpecifiedAt nestedSelection p g := by
  intro paths
  have hw : nested.WellFormed := by decide
  have h : ∀ p ∈ paths, nested.isFile p = true ∨ nested.isDirectory p = true := by
    intro p hp
    rcases List.mem_pair.mp hp with rfl | rfl
    · exact Or.inr (isDirectory_iff.mpr ⟨_, resolve_nested.1⟩)
    · exact Or.inl (isFile_iff.mpr ⟨_, _, resolve_nested.2⟩)
  have hall : ∀ p ∈ paths, nested.YieldsAll p := by
    intro p hp
    rcases List.mem_pair.mp hp with rfl | rfl
    · exact yieldsAll_nested
    · intro l names hl
      rw [resolve_nested.2] at hl
      cases hl
  obtain ⟨files, hrun, hfound, hspecified⟩ := (discover_exact hw nestedSelection paths).1 h
  refine ⟨hw, h, hall, ?_, files, hrun, hfound, hspecified hall⟩
  simp only [paths, discover, List.mapM_cons, List.mapM_nil, filesAt, resolve_nested.1,
    resolve_nested.2, filesBelow_nested]
  cbv

end FileTree

end HeaderCheck
