/-
# However the walked directory is spelled

A walk tries the globs on two paths of an entry: the walked one, which starts
with the spelling of the named directory, and the one relative to it.  Walked
from the current directory by its dot, the two are one to a glob, since the dot
and the slash in front are taken off (`normalized_here`).  So the walk by the
dot excludes an entry by its relative path only, and every other walk of the
directory tries that path too (`skips_of_here`): what is to be kept by another
spelling is to be kept by the dot (`Specifies.here`).

The walk by the dot also gets that far.  It has the shortest paths
(`width_below_here`), so it can open what can be opened by other ones, with one
exception: behind the bare slash of the root, paths are a byte shorter still.

Backslashes in the names are excepted.  To a glob they are slashes, so a name
that starts with a dot and a backslash has its own beginning taken off, but
not behind the dot of the current directory.
-/
import HeaderCheck.Proofs.Components
import HeaderCheck.Proofs.Discovery

namespace HeaderCheck

/-! ## Relative paths and those behind the dot -/

namespace Path

variable {p q r : Path} {name s : Text} {names : List Text}

/-- The current directory, by its dot. -/
def here : Path := ⟨['.']⟩

/-- Names on their own, as a relative path. -/
def relative (names : List Text) : Path :=
  below ⟨[]⟩ names

/-- What stands before a path stays there when names are put behind it. -/
theorem join_prepend (hq : q.spelling ≠ []) (s name : Text) :
    join ⟨s ++ q.spelling⟩ name = ⟨s ++ (q.join name).spelling⟩ := by
  have hne : s ++ q.spelling ≠ [] := fun h => hq (List.append_eq_nil_iff.mp h).2
  rw [join, join, if_neg hne, if_neg hq, List.getLast?_append_of_ne_nil _ hq]
  split <;> rw [List.append_assoc]

theorem below_prepend (hq : q.spelling ≠ []) (s : Text) :
    below ⟨s ++ q.spelling⟩ names = ⟨s ++ (q.below names).spelling⟩ := by
  induction names generalizing q with
  | nil => rfl
  | cons name names ih =>
      have hjoin : (q.join name).spelling ≠ [] := by
        rcases join_cases q name with ⟨hnil, -⟩ | ⟨u, -, h⟩ | ⟨-, -, h⟩
        · exact absurd hnil hq
        · rw [h]
          simp
        · rw [h]
          simp
      show below (join ⟨s ++ q.spelling⟩ name) names = ⟨s ++ (below (q.join name) names).spelling⟩
      rw [join_prepend hq, ih hjoin]

/-- Behind a path stand a slash, its own or one that is put there, and the
relative path. -/
theorem exists_below_eq (hr : r.spelling ≠ []) (hn : names ≠ []) (h : ∀ n ∈ names, n ≠ []) :
    ∃ u, r.below names = ⟨u ++ '/' :: (relative names).spelling⟩ ∧
      (r.spelling = u ∨ r.spelling = u ++ ['/']) := by
  obtain ⟨name, rest, rfl⟩ := List.exists_cons_of_ne_nil hn
  have hbelow : ∀ u, r.join name = ⟨u ++ '/' :: name⟩ →
      r.below (name :: rest) = ⟨u ++ '/' :: (relative (name :: rest)).spelling⟩ := by
    intro u hu
    have hprepend := @below_prepend ⟨name⟩ rest (h name List.mem_cons_self) (u ++ ['/'])
    rw [List.append_assoc, List.append_assoc] at hprepend
    show below (r.join name) rest = _
    rw [hu]
    exact hprepend
  rcases join_cases r name with ⟨hnil, -⟩ | ⟨u, hu, hjoin⟩ | ⟨-, -, hjoin⟩
  · exact absurd hnil hr
  · exact ⟨u, hbelow u hjoin, Or.inr hu⟩
  · exact ⟨r.spelling, hbelow _ hjoin, Or.inl rfl⟩

theorem below_here (hn : names ≠ []) (h : ∀ n ∈ names, n ≠ []) :
    here.below names = ⟨'.' :: '/' :: (relative names).spelling⟩ := by
  obtain ⟨name, rest, rfl⟩ := List.exists_cons_of_ne_nil hn
  exact below_prepend (q := ⟨name⟩) (h name List.mem_cons_self) ['.', '/']

/-- Behind the dot, paths are no longer than behind any other path but the bare
slash of the root. -/
theorem width_below_here (hr : r.spelling ≠ []) (hroot : r.spelling ≠ ['/']) (hn : names ≠ [])
    (h : ∀ n ∈ names, n ≠ []) :
    (here.below names).spelling.width ≤ (r.below names).spelling.width := by
  obtain ⟨u, hbelow, hu⟩ := exists_below_eq hr hn h
  have hwide : u ≠ [] := by
    rintro rfl
    exact hu.elim hr hroot
  have hpos : 1 ≤ Text.width u := Nat.one_le_iff_ne_zero.mpr (mt Text.width_eq_zero_iff.mp hwide)
  rw [below_here hn h, hbelow, Text.width_append, Text.width_cons]
  exact Nat.add_le_add_right hpos _

/-! ## What the globs see of them -/

/-- Names that are the same to a glob as to the tree. -/
def Unslashed (names : List Text) : Prop :=
  ∀ name ∈ names, FileTree.IsName name ∧ '\\' ∉ name

theorem Unslashed.isName (h : Unslashed names) : ∀ name ∈ names, FileTree.IsName name :=
  fun name hname => (h name hname).1

theorem slashed_of_not_mem (h : '\\' ∉ p.spelling) : p.slashed = p.spelling := by
  rw [slashed, Text.replaceChar]
  refine (List.map_congr_left fun c hc => ?_).trans (List.map_id _)
  have hne : c ≠ '\\' := fun heq => h (heq ▸ hc)
  exact if_neg hne

theorem not_mem_relative (h : Unslashed names) : '\\' ∉ (relative names).spelling := by
  intro hmem
  rcases mem_below hmem with hnil | hslash | ⟨name, hname, hc⟩
  · cases hnil
  · cases hslash
  · exact (h name hname).2 hc

/-- A relative path does not start with a dot and a slash. -/
theorem after?_relative (h : Unslashed names) :
    Text.after? ['.', '/'] (relative names).spelling = none := by
  rw [Option.eq_none_iff_forall_ne_some]
  intro rest hrest
  have heq : (relative names).spelling = ['.', '/'] ++ rest := Text.after?_eq_some_iff.mp hrest
  have hspelling : relative names = ⟨['.'] ++ '/' :: rest⟩ := congrArg Path.mk heq
  have hnames : (relative names).names = names :=
    names_below fun n hn => ⟨(h.isName n hn).nonempty, (h.isName n hn).noSlash⟩
  rw [hspelling, names_of_slash] at hnames
  -- its first piece would be a dot, which is no name
  have hdot : ['.'] ∈ names := by
    rw [← hnames]
    exact List.mem_append_left _ (by decide)
  exact (h.isName _ hdot).notHere rfl

theorem normalized_relative (h : Unslashed names) :
    (relative names).normalized = (relative names).spelling := by
  rw [normalized, slashed_of_not_mem (not_mem_relative h), after?_relative h, Option.getD_none]

/-- To a glob, a path behind the dot is the relative one. -/
theorem normalized_here (hn : names ≠ []) (h : Unslashed names) :
    (here.below names).normalized = (relative names).normalized := by
  have hbelow := below_here hn fun n hmem => (h.isName n hmem).nonempty
  have hslash : '\\' ∉ (here.below names).spelling := by
    rw [hbelow]
    simpa using not_mem_relative h
  have hafter : Text.after? ['.', '/'] (here.below names).spelling =
      some (relative names).spelling :=
    Text.after?_eq_some_iff.mpr (by rw [hbelow]; rfl)
  rw [normalized, slashed_of_not_mem hslash, hafter, Option.getD_some, normalized_relative h]

/-- The extension is that of the last name, whatever the names are behind. -/
theorem extension?_below (hn : names ≠ []) (h : ∀ n ∈ names, FileTree.IsName n) :
    (p.below names).extension? = (q.below names).extension? := by
  induction names using List.reverseRecOn with
  | nil => exact absurd rfl hn
  | append_singleton names name _ =>
      have hname := (h name (by simp)).isPiece
      rw [below_concat, below_concat, extension?, extension?, fileName?_join hname,
        fileName?_join hname]

end Path

namespace Selection

variable {s : Selection} {e : Entry} {p q walked : Path} {names : List Text}

/-- Where both paths are the same to a glob, the relative one alone decides,
and that is tried in every walk. -/
theorem skips_of_normalized_eq (heq : p.normalized = q.normalized) (h : s.skips e p q = true) :
    s.skips e walked q = true := by
  cases e with
  | directory =>
      rw [skips, excludesDirectory, heq, ← excludesDirectory, Bool.or_self] at h
      rw [skips, h, Bool.or_true]
  | file content =>
      have hq : s.excludes q = true := by
        simpa [skips, excludes, heq] using h
      simp [skips, hq]
  | link target =>
      have hq : s.excludes q = true := by
        simpa [skips, excludes, heq] using h
      simp [skips, hq]

/-- Whatever is excluded by the dot is excluded however else the directory is
spelled. -/
theorem skips_of_here (hn : names ≠ []) (h : Path.Unslashed names)
    (hskip : s.skips e (Path.here.below names) (.relative names) = true) :
    s.skips e walked (.relative names) = true :=
  skips_of_normalized_eq (Path.normalized_here hn h) hskip

end Selection

namespace FileTree

variable {t : FileTree} {s : Selection} {p r : Path} {l d : Location} {names : List Text}
  {n k : Nat}

/-! ## The same tree from another directory -/

/-- The tree with another current place. -/
def inside (t : FileTree) (d : Location) : FileTree :=
  { t with current := d }

theorem WellFormed.inside (hw : t.WellFormed) (hd : t.at? d = some .directory) :
    (t.inside d).WellFormed :=
  ⟨hw.once, hw.named, hw.below, hd⟩

theorem WellFormed.dropLast (hw : t.WellFormed) (hl : t.at? l = some .directory) :
    t.at? l.dropLast = some .directory := by
  by_cases hnil : l = []
  · rw [hnil]
    rfl
  · exact (hw.below _ (mem_entries_of_at? hnil hl)).2

/-- Names lead from directories to directories. -/
theorem Leads.directory (hw : t.WellFormed) (h : t.Leads n l names k d)
    (hl : t.at? l = some .directory) : t.at? d = some .directory := by
  induction h with
  | done => exact hl
  | here _ ih => exact ih hl
  | parent _ ih => exact ih (hw.dropLast hl)
  | enter _ hat _ ih => exact ih hat
  | @follow _ _ _ _ _ target _ _ _ _ ih =>
      refine ih ?_
      rw [start]
      split
      · rfl
      · exact hl

/-- No name of an entry contains a backslash. -/
def Forward (t : FileTree) : Prop :=
  ∀ e ∈ t.entries, ∀ name ∈ e.1, '\\' ∉ name

instance (t : FileTree) : Decidable t.Forward :=
  inferInstanceAs (Decidable (∀ e ∈ t.entries, ∀ name ∈ e.1, '\\' ∉ name))

theorem unslashed_of_at? {e : Entry} (hw : t.WellFormed) (hb : t.Forward) (hn : names ≠ [])
    (h : t.at? (l ++ names) = some e) : Path.Unslashed names := by
  have hmem := mem_entries_of_at? (by simp [hn]) h
  intro name hname
  have hin : name ∈ l ++ names := List.mem_append_right l hname
  exact ⟨hw.named _ hmem name hin, hb _ hmem name hin⟩

/-- What is to be kept by a walk is to be kept by the walk from the dot. -/
theorem Specifies.here (hw : t.WellFormed) (hb : t.Forward)
    (h : t.Specifies s r ⟨[]⟩ d names) : (t.inside d).Specifies s .here ⟨[]⟩ d names := by
  obtain ⟨content, hfile⟩ := h.file
  have hnames := unslashed_of_at? hw hb h.nonempty hfile
  refine ⟨h.nonempty, h.file, ?_, ?_, ?_⟩
  · obtain ⟨e, he, hmem⟩ := h.configured
    exact ⟨e, (Path.extension?_below h.nonempty hnames.isName).trans he, hmem⟩
  · rw [← Selection.skips_file_iff content]
    exact fun hskip => h.kept ((Selection.skips_file_iff content).mp
      (Selection.skips_of_here h.nonempty hnames hskip))
  · intro above rest hsplit ha hr
    obtain ⟨hat, hkept⟩ := h.way above rest hsplit ha hr
    refine ⟨hat, ?_⟩
    rw [← Selection.skips_directory_iff]
    exact fun hskip => hkept (Selection.skips_directory_iff.mp
      (Selection.skips_of_here ha (unslashed_of_at? hw hb ha hat) hskip))

/-- The walk from the dot opens what another one opens, unless that starts from
the bare slash of the root. -/
theorem OpensAlong.here (hne : r.spelling ≠ []) (hroot : r.spelling ≠ ['/'])
    (hnames : ∀ n ∈ names, n ≠ []) (h : OpensAlong r names) : OpensAlong .here names := by
  intro above rest hsplit ha hr
  have hopens := h above rest hsplit ha hr
  have hwidth := Path.width_below_here hne hroot ha fun n hn =>
    hnames n (hsplit ▸ List.mem_append_left rest hn)
  rw [opens, decide_eq_true_eq] at hopens ⊢
  exact hwidth.trans hopens

end FileTree

end HeaderCheck
