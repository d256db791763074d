/-
# One file under several paths

Of the paths that are found, those that mean the same are dropped, but two
paths that do not mean the same can still lead to one file.  In a tree
without links there are two ways for this only: a path goes up by two dots,
or the two start differently, from the root, from the dot of the current
directory, or from a name in it.

A path is what it starts from and the pieces that follow (`components_eq`).
Without links and without going up, a walk ends at the place where it starts
with just these pieces added (`eq_of_walk`), so of paths that start alike and
lead to one file, the pieces are equal, and the paths mean the same.

What is found starts as the path it was named by, and goes up only if that
does.  So if all named paths start alike and none goes up, no file is found
twice (`discover_apart`).
-/
import HeaderCheck.Proofs.Components
import HeaderCheck.Proofs.Discovery

namespace HeaderCheck

/-! ## Paths that go up -/

namespace Path

variable {p : Path} {names : List Text}

/-- No piece of a path leads up. -/
def Descends (p : Path) : Prop :=
  ['.', '.'] ∉ p.names

instance (p : Path) : Decidable p.Descends :=
  inferInstanceAs (Decidable (¬ _))

theorem Descends.below (hp : p.Descends) (h : ∀ n ∈ names, FileTree.IsName n) :
    (p.below names).Descends := by
  rw [Descends, names_below fun n hn => ⟨(h n hn).nonempty, (h n hn).noSlash⟩, List.mem_append]
  rintro (hup | hup)
  · exact hp hup
  · exact (h _ hup).notParent rfl

end Path

namespace FileTree

variable {t : FileTree} {s : Selection} {p f g : Path} {l d : Location} {e : Entry}
  {names : List Text} {ps fs : List Path} {n : Nat} {follow : Bool}

/-! ## Walks without links -/

/-- There are no links in a tree. -/
def Linkless (t : FileTree) : Prop :=
  ∀ l target, (l, Entry.link target) ∉ t.entries

theorem Linkless.at?_ne (h : t.Linkless) (hl : l ≠ []) (target : Text) :
    t.at? l ≠ some (.link target) :=
  fun hat => h l target (mem_entries_of_at? hl hat)

/-- A walk that goes neither up nor through links ends at the names it was
given. -/
theorem eq_of_walk (hlinks : t.Linkless) (hup : ['.', '.'] ∉ names)
    (h : t.walk follow n l names = .ok (.found d e)) : d = l ++ names.filter (· ≠ ['.']) := by
  induction names generalizing l with
  | nil =>
      rw [walk] at h
      obtain ⟨rfl, -⟩ := Target.found.inj (Except.ok.inj h)
      rw [List.filter_nil, List.append_nil]
  | cons name rest ih =>
      obtain ⟨hname, hrest⟩ := not_or.mp (List.mem_cons.not.mp hup)
      by_cases hhere : name = ['.']
      · subst hhere
        rw [walk_here] at h
        exact ih hrest h
      have hparent : name ≠ ['.', '.'] := fun hp => hname hp.symm
      by_cases hlong : maxNameWidth < Text.width name
      · rw [walk, if_neg hhere, if_neg hparent, if_pos hlong] at h
        cases h
      have hfilter : (name :: rest).filter (· ≠ ['.']) = name :: rest.filter (· ≠ ['.']) :=
        List.filter_cons_of_pos (by simpa using hhere)
      rw [walk_plain ⟨hhere, hparent, Nat.not_lt.mp hlong⟩] at h
      rw [hfilter]
      -- what is there is nothing, a directory, a file or a link
      split at h
      next => split at h <;> cases h
      next =>
        have hd := ih hrest h
        rw [hd, List.append_assoc]
        rfl
      next =>
        split at h
        next hnil =>
          obtain ⟨rfl, -⟩ := Target.found.inj (Except.ok.inj h)
          rw [hnil, List.filter_nil]
        next => cases h
      next target hat => exact absurd hat (hlinks.at?_ne (by simp) target)

/-! ## Files that are found -/

/-- A path leads to a file at a place, however long the path is. -/
def Denotes (t : FileTree) (p : Path) (l : Location) : Prop :=
  ∃ content, t.walk true maxLinks (t.origin p.spelling) (steps p.spelling) =
    .ok (.found l (.file content))

theorem Denotes.eq_route (hlinks : t.Linkless) (hp : p.Descends) (h : t.Denotes p l) :
    l = t.origin p.spelling ++ p.route := by
  obtain ⟨content, hwalk⟩ := h
  rw [steps_eq] at hwalk
  have hup : ['.', '.'] ∉ p.names ++ (if p.spelling.getLast? = some '/' then [['.']] else []) := by
    rw [List.mem_append, not_or]
    exact ⟨hp, by split <;> simp⟩
  rw [eq_of_walk hlinks hup hwalk, List.filter_append, Path.route]
  split <;> simp

/-- Two paths to one file, neither of which goes up, mean the same if they
start alike. -/
theorem Denotes.same (hlinks : t.Linkless) (hf : f.Descends) (hg : g.Descends)
    (hstart : f.start = g.start) (hfl : t.Denotes f l) (hgl : t.Denotes g l) :
    f.same g = true := by
  refine Path.same_of_route_eq hstart ?_
  have heq := (hfl.eq_route hlinks hf).symm.trans (hgl.eq_route hlinks hg)
  rw [Path.origin_eq_of_start t hstart] at heq
  exact List.append_cancel_left heq

/-- What is found at a named path leads to a file. -/
theorem FoundAt.exists_denotes (hw : t.WellFormed) (h : t.FoundAt s p g) : ∃ l, t.Denotes g l := by
  rcases h with ⟨hfile, rfl⟩ | ⟨l, names, hp, rfl, hkeeps⟩
  · obtain ⟨l, content, hl⟩ := isFile_iff.mp hfile
    exact ⟨l, content, (resolve_eq_ok_iff.mp hl).2⟩
  · obtain ⟨content, hwalk⟩ := hkeeps.walk_below hw hp
    exact ⟨l ++ names, content, hwalk⟩

/-- It starts as the named path does, and goes up only if that does. -/
theorem FoundAt.start_eq (hw : t.WellFormed) (h : t.FoundAt s p g) :
    g.start = p.start ∧ (p.Descends → g.Descends) := by
  rcases h with ⟨-, rfl⟩ | ⟨l, names, -, rfl, hkeeps⟩
  · exact ⟨rfl, id⟩
  · have hnames := hkeeps.isName hw
    exact ⟨Path.start_below hnames, fun hp => hp.below hnames⟩

/-- No file is found under two paths. -/
def FindsOnce (t : FileTree) (fs : List Path) : Prop :=
  fs.Pairwise fun f g => ∀ l, t.Denotes f l → ¬ t.Denotes g l

/-- **In a tree without links, a file is found twice only by going up or by
paths that start differently**; so if all named paths start alike and none
goes up, it is found once. -/
theorem discover_apart (hw : t.WellFormed) (hlinks : t.Linkless)
    (h : t.discover s ps = .ok fs) :
    (∀ f ∈ fs, ∃ l, t.Denotes f l) ∧
      (fs.Pairwise fun f g => ∀ l, t.Denotes f l → t.Denotes g l →
        f.start ≠ g.start ∨ ¬ f.Descends ∨ ¬ g.Descends) ∧
      ((∀ p ∈ ps, p.Descends) → (∀ p ∈ ps, ∀ q ∈ ps, p.start = q.start) → t.FindsOnce fs) := by
  have hapart : fs.Pairwise fun f g => ∀ l, t.Denotes f l → t.Denotes g l →
      f.start ≠ g.start ∨ ¬ f.Descends ∨ ¬ g.Descends := by
    refine (discover_increasing h).imp fun {f g} hfg l hf hg => ?_
    by_contra hno
    -- they would mean the same, and of such paths one only is found
    obtain ⟨hstart, hdescends⟩ := not_or.mp hno
    obtain ⟨hdf, hdg⟩ := not_or.mp hdescends
    have hsame := Denotes.same hlinks (not_not.mp hdf) (not_not.mp hdg) (not_not.mp hstart) hf hg
    rw [hfg.same_eq] at hsame
    cases hsame
  refine ⟨fun f hf => ?_, hapart, fun hdescends hstarts => ?_⟩
  · obtain ⟨p, -, hfound⟩ := foundAt_of_discover hw h hf
    exact hfound.exists_denotes hw
  · have hends : ∀ f ∈ fs, ∃ p ∈ ps, f.start = p.start ∧ f.Descends := by
      intro f hf
      obtain ⟨p, hp, hfound⟩ := foundAt_of_discover hw h hf
      obtain ⟨hstart, hkeep⟩ := hfound.start_eq hw
      exact ⟨p, hp, hstart, hkeep (hdescends p hp)⟩
    refine hapart.imp_of_mem fun {f g} hf hg hfg l hfl hgl => ?_
    obtain ⟨p, hp, hfp, hdf⟩ := hends f hf
    obtain ⟨q, hq, hgq, hdg⟩ := hends g hg
    rcases hfg l hfl hgl with hstart | hup | hup
    · exact hstart (hfp.trans ((hstarts p hp q hq).trans hgq.symm))
    · exact hup hdf
    · exact hup hdg

/-! ### The current directory and a file in it -/

/-- A tree with one file. -/
def lone : FileTree :=
  { entries := [(["a.rs".toList], .file (Text.encode "// MIT".toList))], current := [] }

/-- The extensions that are configured by default. -/
def loneSelection : Selection :=
  { extensions := Config.default.foldedExtensions, exclude := [] }

theorem linkless_lone : lone.Linkless := by
  intro l target hmem
  obtain ⟨-, htarget⟩ := Prod.mk.inj (List.mem_singleton.mp hmem)
  cases htarget

theorem resolve_lone :
    lone.resolve ⟨".".toList⟩ = .ok (.found [] .directory) ∧
      lone.resolve ⟨"a.rs".toList⟩ =
        .ok (.found ["a.rs".toList] (.file (Text.encode "// MIT".toList))) ∧
      lone.resolve ⟨"./a.rs".toList⟩ =
        .ok (.found ["a.rs".toList] (.file (Text.encode "// MIT".toList))) := by
  refine ⟨?_, ?_, ?_⟩ <;> cbv

theorem filesBelow_lone :
    lone.filesBelow loneSelection lone.entries.length ⟨".".toList⟩ ⟨[]⟩ [] =
      [⟨"./a.rs".toList⟩] := by
  have hjoin : Path.join ⟨".".toList⟩ "a.rs".toList = ⟨"./a.rs".toList⟩ := by decide
  have hselects : loneSelection.selects ⟨"./a.rs".toList⟩ = true :=
    Selection.selects_iff.mpr ⟨"rs".toList, by decide, List.mem_map_of_mem (by decide)⟩
  have hchildren : lone.children [] = [("a.rs".toList, .file (Text.encode "// MIT".toList))] := rfl
  have hskips : ∀ walked relative content,
      loneSelection.skips (.file content) walked relative = false := fun _ _ _ => rfl
  show filesBelow lone loneSelection 1 _ _ _ = _
  rw [filesBelow, hchildren]
  simp only [List.flatMap_cons, List.flatMap_nil, hjoin, hskips, hselects, Bool.false_eq_true,
    if_false, if_true]
  rfl

/-- The file is named with the dot in front that the current directory has. -/
theorem discover_apart_lone :
    let ps := [⟨".".toList⟩, ⟨"./a.rs".toList⟩]
    lone.WellFormed ∧ lone.Linkless ∧
      lone.discover loneSelection ps = .ok [⟨"./a.rs".toList⟩] ∧
      lone.FindsOnce [⟨"./a.rs".toList⟩] := by
  intro ps
  have hw : lone.WellFormed := by decide
  have h : lone.discover loneSelection ps = .ok [⟨"./a.rs".toList⟩] := by
    simp only [ps, discover, List.mapM_cons, List.mapM_nil, filesAt, resolve_lone.1,
      resolve_lone.2.2, filesBelow_lone]
    cbv
  have hdescends : ∀ p ∈ ps, p.Descends := by decide
  have hstarts : ∀ p ∈ ps, ∀ q ∈ ps, p.start = q.start := by decide
  exact ⟨hw, linkless_lone, h, (discover_apart hw linkless_lone h).2.2 hdescends hstarts⟩

/-- Without the dot, the file is found twice. -/
theorem not_findsOnce_dotless :
    let ps := [⟨".".toList⟩, ⟨"a.rs".toList⟩]
    lone.WellFormed ∧ lone.Linkless ∧
      ∃ fs, lone.discover loneSelection ps = .ok fs ∧ ¬ lone.FindsOnce fs := by
  intro ps
  have h : lone.discover loneSelection ps = .ok [⟨"./a.rs".toList⟩, ⟨"a.rs".toList⟩] := by
    simp only [ps, discover, List.mapM_cons, List.mapM_nil, filesAt, resolve_lone.1,
      resolve_lone.2.1, filesBelow_lone]
    cbv
  refine ⟨by decide, linkless_lone, _, h, fun honce => ?_⟩
  have hplain : lone.Denotes ⟨"a.rs".toList⟩ ["a.rs".toList] :=
    ⟨_, (resolve_eq_ok_iff.mp resolve_lone.2.1).2⟩
  have hdotted : lone.Denotes ⟨"./a.rs".toList⟩ ["a.rs".toList] :=
    ⟨_, (resolve_eq_ok_iff.mp resolve_lone.2.2).2⟩
  exact (List.pairwise_pair.mp honce) _ hdotted hplain

end FileTree

end HeaderCheck
