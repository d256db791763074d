/-
# What a run of the fix command leaves of the shape of a tree

The command reads a file through its path, links and all, but writes it by a
replacement, which is of the entry that the path names.  So a link that a path
names becomes a file, and where it led to is as before.  That, and what
replacements do to spare entries, is all that a run does to links, files and
directories besides giving files new texts (`fix_keeps_shape`).

Which entries are spare depends on the tree at the time of the write, and so
they are told along the run (`Borrowed`).  Which entry a path names does not:
every path that the run writes to was read before the first write, hence leads
to no directory, and replacing what it names keeps all ways (`SameWays`).  Two
paths that name one entry have led to one file, so that whichever of them is
written last, the text is the same.
-/
import HeaderCheck.Proofs.SameWays
import HeaderCheck.Proofs.Survey

namespace HeaderCheck

namespace FileTree

variable {t u v : FileTree} {p p' : Path} {l m q k k' : Location} {e : Entry} {c : ByteArray}
  {f : Failure} {text text' : Text} {w : Write} {ws done attempted : List Write}

/-! ## Paths that have been read -/

/-- What is written to a path gets to one place, whatever the path, as long as
it names the same entry. -/
theorem Receives.eq_of_named? (h : t.Receives p k) (h' : t.Receives p' k')
    (hm : t.named? p = some m) (hm' : t.named? p' = some m) : k = k' := by
  obtain ⟨d, name, rfl, -⟩ := exists_name_of_named? hm
  obtain ⟨i, harrive⟩ := arrives_of_receives h hm
  obtain ⟨j, harrive'⟩ := arrives_of_receives h' hm'
  exact (harrive.more (Nat.le_max_left i j)).unique (harrive'.more (Nat.le_max_right i j))

/-- It gets to the entry itself, unless that is a link. -/
theorem Receives.eq_or_link (h : t.Receives p k) (hm : t.named? p = some m) :
    k = m ∨ ∃ target, t.at? m = some (.link target) := by
  obtain ⟨d, name, rfl, hname⟩ := exists_name_of_named? hm
  obtain ⟨n, harrive⟩ := arrives_of_receives h hm
  cases harrive with
  | last => exact Or.inl rfl
  | here => exact absurd rfl hname.notHere
  | parent => exact absurd rfl hname.notParent
  | enter _ _ hrest => cases hrest
  | follow _ hat => exact Or.inr ⟨_, hat⟩

theorem exists_of_readText (h : t.readText p = .ok text) :
    ∃ k c, t.resolve p = .ok (.found k (.file c)) ∧ Text.decode? c = some text := by
  rw [readText] at h
  obtain ⟨c, hread, h⟩ := bind_eq_ok_iff.mp h
  rw [read] at hread
  obtain ⟨x, hx, hread⟩ := bind_eq_ok_iff.mp hread
  split at hread
  next k content =>
    obtain rfl := Except.ok.inj hread
    split at h
    next text' hdecode =>
      obtain rfl := Except.ok.inj h
      exact ⟨k, content, hx, hdecode⟩
    next => cases h
  next => cases hread
  next => cases hread

/-- Paths that name one entry have one text. -/
theorem text_eq_of_named? (h : t.readText p = .ok text) (h' : t.readText p' = .ok text')
    (hm : t.named? p = some m) (hm' : t.named? p' = some m) : text = text' := by
  obtain ⟨k, c, hk, hc⟩ := exists_of_readText h
  obtain ⟨k', c', hk', hc'⟩ := exists_of_readText h'
  have hr : t.Receives p k := Or.inr ⟨c, hk⟩
  have hr' : t.Receives p' k' := Or.inr ⟨c', hk'⟩
  obtain rfl := hr.eq_of_named? hr' hm hm'
  have hat : t.at? k = some (.file c) := holds_of_walk (resolve_eq_ok_iff.mp hk).2
  have hat' : t.at? k = some (.file c') := holds_of_walk (resolve_eq_ok_iff.mp hk').2
  obtain rfl := Entry.file.inj (Option.some.inj (hat.symm.trans hat'))
  exact Option.some.inj (hc.symm.trans hc')

/-- A path that has been read leads to the file that it names, or it names a
link. -/
theorem found_or_link_of_readText (h : t.readText p = .ok text) (hm : t.named? p = some m) :
    (∃ c, t.resolve p = .ok (.found m (.file c)) ∧ t.at? m = some (.file c)) ∨
      ∃ target, t.at? m = some (.link target) := by
  obtain ⟨k, c, hk, -⟩ := exists_of_readText h
  have hr : t.Receives p k := Or.inr ⟨c, hk⟩
  refine (hr.eq_or_link hm).imp_left ?_
  rintro rfl
  exact ⟨c, hk, holds_of_walk (resolve_eq_ok_iff.mp hk).2⟩

theorem isEnd_of_readText (h : t.readText p = .ok text) : t.IsEnd p := by
  obtain ⟨k, c, hk, -⟩ := exists_of_readText h
  exact fun m hm => blind_of_receives (Or.inr ⟨c, hk⟩) hm

/-! ## One replacement -/

/-- The entries that a replacement may take for its temporary file: the spare
ones, and the entry of the path itself, if a link has the name of the temporary
file and is what is moved there. -/
def Borrows (t : FileTree) (p : Path) (q : Location) : Prop :=
  t.Spare p q ∨ (∃ target, t.lodger? p = some (.link target)) ∧ t.named? p = some q

theorem not_borrows (h : ∀ e, t.lodger? p = some e → e = .directory) (q : Location) :
    ¬ t.Borrows p q := by
  rintro (hspare | ⟨⟨target, hlink⟩, -⟩)
  · exact not_spare h q hspare
  · cases h _ hlink

/-- Any other entry has the new text if the path names it, and is as before if
it does not. -/
theorem at?_of_replace_ok (h : t.replace p text = (.ok (), u)) (hq : ¬ t.Borrows p q) :
    (t.named? p = some q ∧ u.at? q = some (.file text.encode)) ∨
      (t.named? p ≠ some q ∧ u.at? q = t.at? q) := by
  obtain ⟨l, k, m, e, hs, hm, -, he, -, rfl⟩ := exists_of_replace_ok h
  by_cases hqm : q = m
  · subst hqm
    refine Or.inl ⟨hm, ?_⟩
    rcases hs.at?_put text.encode with ⟨target, hat, -⟩ | ⟨-, -, hput⟩
    · exact absurd (Or.inr ⟨⟨target, hs.lodger?_eq.trans hat⟩, hm⟩) hq
    · rw [at?_put_self (ne_nil_of_named? hm), he.symm.trans hput]
  · refine Or.inr ⟨fun hp => hqm (Option.some.inj (hp.symm.trans hm)), ?_⟩
    exact (at?_put_ne hqm).trans (hs.at?_erase_put fun hspare => hq (Or.inl hspare))

theorem Stages.directory_erase_put (h : t.Stages p l k) :
    ((t.put k (.file c)).erase l).at? q = some .directory ↔ t.at? q = some .directory := by
  rw [← h.deadEnd.directory_put (c := c) (m := q)]
  by_cases hql : q = l
  · subst hql
    obtain ⟨e, hat, hdir⟩ := h.exists_at?_put c
    rw [at?_erase_self h.ne_nil, hat]
    exact iff_of_false nofun fun he => hdir (Option.some.inj he)
  · rw [at?_erase_ne hql]

/-- Directories stay what they are. -/
theorem directory_replace (t : FileTree) (p : Path) (text : Text) (q : Location) :
    (t.replace p text).2.at? q = some .directory ↔ t.at? q = some .directory := by
  cases hr : t.replace p text with
  | mk result u =>
      cases result with
      | ok _ =>
          obtain ⟨l, k, m, e, hs, hm, -, he, hdir, rfl⟩ := exists_of_replace_ok hr
          by_cases hqm : q = m
          · subst hqm
            obtain ⟨e', he', hne⟩ := hs.exists_at?_put text.encode
            obtain rfl := Option.some.inj (he.symm.trans he')
            rw [at?_put_self (ne_nil_of_named? hm)]
            exact iff_of_false (fun h => hne (Option.some.inj h)) hdir
          · rw [at?_put_ne hqm]
            exact hs.directory_erase_put
      | error f =>
          rcases exists_of_replace_error hr with rfl | ⟨l, k, hs, rfl⟩
          · exact Iff.rfl
          · exact hs.directory_erase_put

/-! ## Replacements one after the other -/

/-- A run of writes: those that are made, those that are tried, which are one
more if the last of them fails, and the tree that is left. -/
inductive Attempts : FileTree → List Write → List Write → FileTree → Prop
  | done {t : FileTree} : Attempts t [] [] t
  | fails {t u : FileTree} {w : Write} {f : Failure} :
      t.replace w.path w.text = (.error f, u) → Attempts t [] [w] u
  | next {t u v : FileTree} {w : Write} {done attempted : List Write} :
      t.replace w.path w.text = (.ok (), u) → Attempts u done attempted v →
      Attempts t (w :: done) (w :: attempted) v

/-- The entries that some write of a run borrows when it is tried. -/
def Borrowed : FileTree → List Write → Location → Prop
  | _, [], _ => False
  | t, w :: ws, q => t.Borrows w.path q ∨ Borrowed (t.replace w.path w.text).2 ws q

theorem not_borrowed_cons (h : t.replace w.path w.text = (.ok (), u))
    (hq : ¬ t.Borrowed (w :: ws) q) : ¬ t.Borrows w.path q ∧ ¬ u.Borrowed ws q := by
  rw [Borrowed, h, not_or] at hq
  exact hq

namespace Attempts

theorem done_prefix (h : t.Attempts done attempted u) : done <+: attempted := by
  induction h with
  | done => exact List.prefix_rfl
  | fails => exact List.nil_prefix
  | next _ _ ih => exact List.cons_prefix_cons.mpr ⟨rfl, ih⟩

theorem sameWays (h : t.Attempts done attempted u) (hends : ∀ w ∈ attempted, t.IsEnd w.path) :
    t.SameWays u := by
  induction h with
  | done => exact .refl _
  | fails hw => exact sameWays_replace_error hw
  | @next t u v w done attempted hw _ ih =>
      have hfirst := sameWays_replace_ok hw (hends w List.mem_cons_self)
      exact hfirst.trans (ih fun x hx => hfirst.isEnd (hends x (List.mem_cons_of_mem w hx)))

theorem directory (h : t.Attempts done attempted u) :
    u.at? q = some .directory ↔ t.at? q = some .directory := by
  induction h with
  | done => exact Iff.rfl
  | @fails t u w f hw =>
      have hdir := directory_replace t w.path w.text q
      rwa [hw] at hdir
  | @next t u v w done attempted hw _ ih =>
      have hdir := directory_replace t w.path w.text q
      rw [hw] at hdir
      exact ih.trans hdir

/-- **What a run leaves of an entry** that no write borrows: the text of a
write that named it, or what was there if no write did. -/
theorem at?_cases (h : t.Attempts done attempted u) (hends : ∀ w ∈ attempted, t.IsEnd w.path)
    (hq : ¬ t.Borrowed attempted q) :
    (∃ w ∈ done, t.named? w.path = some q ∧ u.at? q = some (.file w.text.encode)) ∨
      (∀ w ∈ done, t.named? w.path ≠ some q) ∧ u.at? q = t.at? q := by
  induction h with
  | done => exact Or.inr ⟨nofun, rfl⟩
  | fails hw =>
      refine Or.inr ⟨nofun, (touches_of_replace_error hw).2 q fun hspare => hq ?_⟩
      exact Or.inl (Or.inl hspare)
  | @next t u v w done attempted hw _ ih =>
      obtain ⟨hborrows, hborrowed⟩ := not_borrowed_cons hw hq
      have hways := sameWays_replace_ok hw (hends w List.mem_cons_self)
      simp only [← hways.named?_eq]
      rcases ih (fun x hx => hways.isEnd (hends x (List.mem_cons_of_mem w hx))) hborrowed with
        ⟨x, hx, hname, hat⟩ | ⟨hnone, hat⟩
      · exact Or.inl ⟨x, List.mem_cons_of_mem w hx, hname, hat⟩
      rw [hat]
      rcases at?_of_replace_ok hw hborrows with ⟨hname, hself⟩ | ⟨hname, hsame⟩
      · exact Or.inl ⟨w, List.mem_cons_self, hways.named?_eq.trans hname, hself⟩
      · refine Or.inr ⟨List.forall_mem_cons.mpr ⟨?_, hnone⟩, hsame⟩
        rwa [hways.named?_eq]

/-- The writes that are made are to entries. -/
theorem exists_named? (h : t.Attempts done attempted u) (hends : ∀ w ∈ attempted, t.IsEnd w.path)
    (hw : w ∈ done) : ∃ m, t.named? w.path = some m := by
  induction h with
  | done => cases hw
  | fails => cases hw
  | @next t u v x done attempted hx _ ih =>
      rcases List.mem_cons.mp hw with rfl | hw
      · obtain ⟨l, k, m, e, -, hm, -⟩ := exists_of_replace_ok hx
        exact ⟨m, hm⟩
      · have hways := sameWays_replace_ok hx (hends x List.mem_cons_self)
        simp only [← hways.named?_eq]
        exact ih (fun y hy => hways.isEnd (hends y (List.mem_cons_of_mem x hy))) hw

end Attempts

/-! ### Runs that borrow nothing -/

/-- A path to write to, with nothing that could pass for its temporary file. -/
structure IsClear (t : FileTree) (p : Path) : Prop where
  isEnd : t.IsEnd p
  there : ∀ m, t.named? p = some m → ∃ e, t.at? m = some e ∧ e ≠ .directory
  vacant : ∀ e, t.lodger? p = some e → e = .directory

theorem at?_replace (hvacant : ∀ e, t.lodger? p = some e → e = .directory) (text : Text)
    (q : Location) :
    (t.named? p = some q ∧ (t.replace p text).2.at? q = some (.file text.encode)) ∨
      (t.replace p text).2.at? q = t.at? q := by
  have hq := not_borrows hvacant q
  cases hr : t.replace p text with
  | mk result u =>
      cases result with
      | ok _ => exact (at?_of_replace_ok hr hq).imp_right And.right
      | error f => exact Or.inr ((touches_of_replace_error hr).2 q fun hspare => hq (Or.inl hspare))

/-- Writing to one such path leaves the others what they are. -/
theorem IsClear.replace (hp : t.IsClear p) (h : t.IsClear p') (text : Text) :
    (t.replace p text).2.IsClear p' := by
  have hways := sameWays_replace text hp.isEnd
  refine ⟨hways.isEnd h.isEnd, fun m hm => ?_, fun e he => ?_⟩
  · rw [hways.named?_eq] at hm
    rcases at?_replace hp.vacant text m with ⟨-, hat⟩ | hat
    · exact ⟨_, hat, nofun⟩
    · rw [hat]
      exact h.there m hm
  · obtain ⟨l, hl, hat⟩ := Option.bind_eq_some_iff.mp he
    obtain ⟨temporary, ht, hl⟩ := Option.bind_eq_some_iff.mp hl
    rw [hways.named?_eq] at hl
    have hlodger : t.lodger? p' = t.at? l := by
      rw [lodger?, ht, Option.bind_some, hl, Option.bind_some]
    rcases at?_replace hp.vacant text l with ⟨hname, -⟩ | hsame
    · -- the entry that has been replaced would have passed for the temporary file
      obtain ⟨e', he', hdir⟩ := hp.there l hname
      exact absurd (h.vacant e' (hlodger.trans he')) hdir
    · exact h.vacant e (hlodger.trans (hsame.symm.trans hat))

theorem not_borrowed (h : ∀ w ∈ ws, t.IsClear w.path) (q : Location) : ¬ t.Borrowed ws q := by
  induction ws generalizing t with
  | nil => exact id
  | cons w ws ih =>
      have hw := h w List.mem_cons_self
      rintro (hborrows | hborrowed)
      · exact not_borrows hw.vacant q hborrows
      · exact ih (fun x hx => hw.replace (h x (List.mem_cons_of_mem w hx)) w.text) hborrowed

end FileTree

namespace Command

open FileTree

variable {r : Rule} {t u : FileTree} {f : FileResult} {fs files : List FileResult}
  {ps paths : List Path} {o : RuleOptions} {s : Survey} {w : Write}
  {done attempted : List Write}

/-! ## The command -/

/-- The writes of a run over checked files are tried in order, all of them unless
one fails, and those that are made are the ones that it tells of. -/
theorem exists_attempts (r : Rule) (t : FileTree) (files : List FileResult)
    (hd : ∀ f ∈ files, f.diagnostic = r.check f.text) :
    ∃ done attempted, t.Attempts done attempted (fixFiles r t files).tree ∧
      attempted <+: changes r files ∧ (done = attempted → attempted = changes r files) ∧
      (fixFiles r t files).written = done.map (·.path) := by
  induction files generalizing t with
  | nil => exact ⟨[], [], .done, List.nil_prefix, fun _ => rfl, rfl⟩
  | cons f fs ih =>
      have hf : f.diagnostic = r.check f.text := hd f List.mem_cons_self
      have hfs : ∀ g ∈ fs, g.diagnostic = r.check g.text :=
        fun g hg => hd g (List.mem_cons_of_mem f hg)
      by_cases h : r.outcome f.text = f.text
      · rw [changes_keep h, fixFiles_keep hf h]
        exact ih t hfs
      · rw [changes_change h]
        cases hw : t.replace f.path (r.outcome f.text) with
        | mk result u =>
            cases result with
            | ok _ =>
                rw [fixFiles_change h hw]
                obtain ⟨done, attempted, hrun, hchanges, hall, hwritten⟩ := ih u hfs
                refine ⟨_ :: done, _ :: attempted, .next hw hrun,
                  List.cons_prefix_cons.mpr ⟨rfl, hchanges⟩, fun heq => ?_, by rw [hwritten]; rfl⟩
                rw [hall (List.cons.inj heq).2]
            | error e =>
                rw [fixFiles_stop h hw]
                exact ⟨[], [_], .fails hw, List.cons_prefix_cons.mpr ⟨rfl, List.nil_prefix⟩,
                  fun heq => (List.cons_ne_nil _ _ heq.symm).elim, rfl⟩

/-- A write of a run is of a file that was read, and of the text that fixing
has given it. -/
theorem exists_of_mem_changes (hs : survey t paths o = .ok s) (hf : s.checked.files = .ok files)
    (hw : w ∈ changes s.rule files) :
    ∃ text, t.readText w.path = .ok text ∧ s.rule.fixed? text = some w.text := by
  obtain ⟨f, hmem, rfl⟩ := List.mem_map.mp hw
  obtain ⟨hmem, hne⟩ := List.mem_filter.mp hmem
  have hne : s.rule.outcome f.text ≠ f.text := by simpa using hne
  exact ⟨f.text, readText_of_survey hs hf hmem, fixed?_of_outcome_ne hne⟩

/-- What a run of writes keeps of a tree, but for entries that are lent to
it. -/
structure KeepsShape (t u : FileTree) (done : List Write) (lent : Location → Prop) : Prop where
  /-- A link is the same link, unless it was named by a path that was written. -/
  links : ∀ q target, t.at? q = some (.link target) → ¬ lent q →
    u.at? q = some (.link target) ∨
      ∃ w ∈ done, t.named? w.path = some q ∧ u.at? q = some (.file w.text.encode)
  /-- A file is a file. -/
  files : ∀ q c, t.at? q = some (.file c) → ¬ lent q → ∃ c', u.at? q = some (.file c')
  /-- Directories are what they were, whatever is lent. -/
  directories : ∀ q, u.at? q = some .directory ↔ t.at? q = some .directory
  /-- No entry has come or gone. -/
  entries : ∀ q, ¬ lent q → (u.at? q).isSome = (t.at? q).isSome
  /-- What no written path names is as it was. -/
  others : ∀ q, ¬ lent q → (∀ w ∈ done, t.named? w.path ≠ some q) → u.at? q = t.at? q
  /-- The entry that a written path names holds the text, and the path leads
  to it.  It is the file that the path led to before, unless the path named a
  link. -/
  written : ∀ w ∈ done, ∃ m, t.named? w.path = some m ∧
    (¬ lent m → u.at? m = some (.file w.text.encode) ∧
      u.lookup? w.path = some (.file w.text.encode)) ∧
    ((∀ target, t.at? m ≠ some (.link target)) → ∃ c, t.resolve w.path = .ok (.found m (.file c)))

theorem keepsShape_of_attempts (hrun : t.Attempts done attempted u)
    (hread : ∀ w ∈ attempted, ∃ text, t.readText w.path = .ok text ∧ r.fixed? text = some w.text) :
    KeepsShape t u done (t.Borrowed attempted) := by
  have hends : ∀ w ∈ attempted, t.IsEnd w.path := by
    intro w hw
    obtain ⟨text, htext, -⟩ := hread w hw
    exact isEnd_of_readText htext
  have hdone : ∀ w ∈ done, ∃ text, t.readText w.path = .ok text ∧ r.fixed? text = some w.text :=
    fun w hw => hread w (hrun.done_prefix.subset hw)
  refine ⟨fun q target hat hq => ?_, fun q c hat hq => ?_, fun q => hrun.directory,
    fun q hq => ?_, fun q hq hnone => ?_, fun w hw => ?_⟩
  · exact (hrun.at?_cases hends hq).symm.imp_left fun h => h.2.trans hat
  · rcases hrun.at?_cases hends hq with ⟨w, -, -, hnew⟩ | ⟨-, hsame⟩
    · exact ⟨_, hnew⟩
    · exact ⟨c, hsame.trans hat⟩
  · rcases hrun.at?_cases hends hq with ⟨w, hw, hname, hnew⟩ | ⟨-, hsame⟩
    · obtain ⟨text, htext, -⟩ := hdone w hw
      rcases found_or_link_of_readText htext hname with ⟨c, -, hat⟩ | ⟨target, hat⟩
      · rw [hnew, hat]
        rfl
      · rw [hnew, hat]
        rfl
    · rw [hsame]
  · rcases hrun.at?_cases hends hq with ⟨w, hw, hname, -⟩ | ⟨-, hsame⟩
    · exact absurd hname (hnone w hw)
    · exact hsame
  · obtain ⟨m, hm⟩ := hrun.exists_named? hends hw
    obtain ⟨text, htext, hfixed⟩ := hdone w hw
    refine ⟨m, hm, fun hq => ?_, fun hlink => ?_⟩
    · rcases hrun.at?_cases hends hq with ⟨x, hx, hname, hnew⟩ | ⟨hnone, -⟩
      · -- the last write to the entry was of the same text
        obtain ⟨text', htext', hfixed'⟩ := hdone x hx
        obtain rfl := text_eq_of_named? htext htext' hm hname
        obtain heq := Option.some.inj (hfixed.symm.trans hfixed')
        rw [← heq] at hnew
        obtain ⟨k, c, hk, -⟩ := exists_of_readText htext
        have hslash := Receives.noSlash (t := t) (q := k) (Or.inr ⟨c, hk⟩)
        exact ⟨hnew, lookup?_of_named ((hrun.sameWays hends).named? hm) hslash hnew⟩
      · exact absurd hm (hnone w hw)
    · rcases found_or_link_of_readText htext hm with ⟨c, hfound, -⟩ | ⟨target, hat⟩
      · exact ⟨c, hfound⟩
      · exact absurd hat (hlink target)

theorem not_borrowed_of_vacant
    (hread : ∀ w ∈ attempted, ∃ text, t.readText w.path = .ok text ∧ r.fixed? text = some w.text)
    (hvacant : ∀ w ∈ attempted, ∀ e, t.lodger? w.path = some e → e = .directory) (q : Location) :
    ¬ t.Borrowed attempted q := by
  refine not_borrowed (fun w hw => ?_) q
  obtain ⟨text, htext, -⟩ := hread w hw
  refine ⟨isEnd_of_readText htext, fun m hm => ?_, hvacant w hw⟩
  rcases found_or_link_of_readText htext hm with ⟨c, -, hat⟩ | ⟨target, hat⟩
  · exact ⟨_, hat, nofun⟩
  · exact ⟨_, hat, nofun⟩

/-- What a run over checked files leaves and prints. -/
theorem tree_and_output_of_survey (hs : survey t paths o = .ok s)
    (hf : s.checked.files = .ok files) :
    (fix t paths o).tree = (fixFiles s.rule t files).tree ∧
      ((fix t paths o).output =
          String.join ((fixFiles s.rule t files).written.map writtenLine) ∨
        ∃ left, (fix t paths o).output =
          String.join ((fixFiles s.rule t files).written.map writtenLine) ++
            (summary (fixFiles s.rule t files).written.length left).1) := by
  have hfix := fix_of_survey hs hf
  cases hleft : (fixFiles s.rule t files).left with
  | error e =>
      simp only [hleft] at hfix
      rw [hfix]
      exact ⟨rfl, Or.inl rfl⟩
  | ok left =>
      simp only [hleft] at hfix
      rw [hfix]
      exact ⟨rfl, Or.inr ⟨left, rfl⟩⟩

/-- **The fix command keeps the shape of the tree**, but for links that it is
told to write to.  Where files cannot be found or read, a run leaves the tree and
says nothing.  Otherwise it tries the writes that the files call for, in order,
up to the first that fails, and tells of those that were made.  Links, files and
directories are what they were, and the paths it tells of lead to their fixed
texts; with two exceptions.  A link that such a path names has become a file,
and the file it led to is as it was, unless it was written by another path.  And
entries that were taken for temporary files are not spoken of, of which there
are none where nothing, or a directory, has the names of those. -/
theorem fix_keeps_shape (t : FileTree) (paths : List Path) (o : RuleOptions) :
    ((∀ s files, survey t paths o = .ok s → s.checked.files ≠ .ok files) ∧
        (fix t paths o).tree = t ∧ (fix t paths o).output = "") ∨
      ∃ s files done attempted,
        survey t paths o = .ok s ∧ s.checked.files = .ok files ∧
        t.Attempts done attempted (fix t paths o).tree ∧
        attempted <+: changes s.rule files ∧
        (done = attempted → attempted = changes s.rule files) ∧
        ((fix t paths o).output = writtenLines done ∨
          ∃ left, (fix t paths o).output = writtenLines done ++ (summary done.length left).1) ∧
        (∀ w ∈ done, ∃ text, t.readText w.path = .ok text ∧ s.rule.fixed? text = some w.text) ∧
        KeepsShape t (fix t paths o).tree done (t.Borrowed attempted) ∧
        ((∀ w ∈ attempted, ∀ e, t.lodger? w.path = some e → e = .directory) →
          ∀ q, ¬ t.Borrowed attempted q) := by
  cases hs : survey t paths o with
  | error e =>
      refine Or.inl ⟨nofun, ?_⟩
      simp only [fix, hs]
      exact ⟨rfl, rfl⟩
  | ok s =>
      cases hf : s.checked.files with
      | error e =>
          refine Or.inl ⟨?_, ?_⟩
          · intro s' files hs' hf'
            obtain rfl := Except.ok.inj hs'
            cases hf.symm.trans hf'
          · simp only [fix, hs, hf]
            exact ⟨rfl, rfl⟩
      | ok files =>
          obtain ⟨done, attempted, hrun, hchanges, hall, hwritten⟩ :=
            exists_attempts s.rule t files (files_of_survey hs hf).2
          have hread : ∀ w ∈ attempted, ∃ text, t.readText w.path = .ok text ∧
              s.rule.fixed? text = some w.text :=
            fun w hw => exists_of_mem_changes hs hf (hchanges.subset hw)
          obtain ⟨htree, houtput⟩ := tree_and_output_of_survey hs hf
          rw [hwritten, List.map_map, List.length_map] at houtput
          rw [htree]
          exact Or.inr ⟨s, files, done, attempted, rfl, hf, hrun, hchanges, hall, houtput,
            fun w hw => hread w (hrun.done_prefix.subset hw), keepsShape_of_attempts hrun hread,
            not_borrowed_of_vacant hread⟩

/-! ## Without the exceptions -/

/-- Every link is the same link. -/
def KeepsLinks (t u : FileTree) : Prop :=
  ∀ q target, t.at? q = some (.link target) → u.at? q = some (.link target)

/-- Every file is a file. -/
def KeepsFiles (t u : FileTree) : Prop :=
  ∀ q c, t.at? q = some (.file c) → ∃ c', u.at? q = some (.file c')

/-- No entry has come or gone. -/
def KeepsEntries (t u : FileTree) : Prop :=
  ∀ q, (u.at? q).isSome = (t.at? q).isSome

/-- The file that a path led to holds a text. -/
def Updates (t u : FileTree) (p : Path) (text : Text) : Prop :=
  ∀ m c, t.resolve p = .ok (.found m (.file c)) → u.at? m = some (.file text.encode)

/-- A directory with a file without a header, a link to it, and another file
that has the name of the link's temporary file. -/
def linked : FileTree :=
  { entries := [(["a.rs".toList], .file (Text.encode "foo();".toList)),
      (["l.rs".toList], .link "a.rs".toList),
      ([".l.rs.tmp".toList], .file (Text.encode "keep".toList))]
    current := [] }

theorem resolve_linked :
    linked.resolve ⟨"l.rs".toList⟩ =
      .ok (.found ["a.rs".toList] (.file (Text.encode "foo();".toList))) := by cbv

/-- The run that is told to fix the link writes to it, and tells so. -/
theorem fix_linked :
    (fix linked [⟨"l.rs".toList⟩] otherLicence).tree =
        (linked.replace ⟨"l.rs".toList⟩ "/*\n * BSD\n */\n\nfoo();".toList).2 ∧
      ∃ rest, (fix linked [⟨"l.rs".toList⟩] otherLicence).output = "Fixed: l.rs\n" ++ rest := by
  obtain ⟨r, hr, -, houtcome⟩ := exists_rule_twoFiles
  obtain ⟨sel, hsel⟩ := exists_selection_twoFiles
  have hnone : linked.isFile configFile = false := by cbv
  have hdiscover : linked.discover sel [⟨"l.rs".toList⟩] = .ok [⟨"l.rs".toList⟩] := by
    simp only [FileTree.discover, List.mapM_cons, List.mapM_nil, FileTree.filesAt, resolve_linked]
    cbv
  have hsources : sources linked [⟨"l.rs".toList⟩]
      (Config.default.override otherLicence.pattern otherLicence.template) =
        .ok [⟨"l.rs".toList⟩] := by
    simp only [sources, hsel, hdiscover, bind, Except.bind]
  have hs := survey_eq (effectiveConfig_otherLicence hnone) hr hsources
  have hf : (checkFiles linked r [⟨"l.rs".toList⟩]).files =
      .ok [⟨⟨"l.rs".toList⟩, "foo();".toList, r.check "foo();".toList⟩] := by
    simp only [checkFiles, FileTree.read, resolve_linked]
    simp only [bind, Except.bind, pure, Except.pure, Text.decode?_encode]
    rfl
  have hc : changes r [⟨⟨"l.rs".toList⟩, "foo();".toList, r.check "foo();".toList⟩] =
      [⟨⟨"l.rs".toList⟩, "/*\n * BSD\n */\n\nfoo();".toList⟩] := by
    have hne : ¬ "/*\n * BSD\n */\n\nfoo();".toList = "foo();".toList := by decide
    simp only [changes, List.filter, List.map, houtcome, hne, ne_eq, not_false_eq_true,
      decide_true]
  have hw : (linked.replace ⟨"l.rs".toList⟩ "/*\n * BSD\n */\n\nfoo();".toList).1 = .ok () := by
    cbv
  have hwrites : linked.Writes [⟨⟨"l.rs".toList⟩, "/*\n * BSD\n */\n\nfoo();".toList⟩] _ :=
    .next (Prod.ext hw rfl) .done
  rw [← hc] at hwrites
  obtain ⟨htree, houtput, -⟩ := fix_writes hs hf hwrites
  have hline : ∀ text, writtenLines [⟨⟨"l.rs".toList⟩, text⟩] = "Fixed: l.rs\n" :=
    fun text => by cbv
  simp only [hc, hline] at houtput
  exact ⟨htree, _, houtput⟩

/-- Afterwards the link is a file, the other file is gone, and the file that
the link led to is without its header still. -/
theorem not_fix_keeps_linked :
    ¬ KeepsLinks linked (fix linked [⟨"l.rs".toList⟩] otherLicence).tree ∧
      ¬ KeepsFiles linked (fix linked [⟨"l.rs".toList⟩] otherLicence).tree ∧
      ¬ KeepsEntries linked (fix linked [⟨"l.rs".toList⟩] otherLicence).tree ∧
      (∃ rest, (fix linked [⟨"l.rs".toList⟩] otherLicence).output = "Fixed: l.rs\n" ++ rest) ∧
      ¬ Updates linked (fix linked [⟨"l.rs".toList⟩] otherLicence).tree ⟨"l.rs".toList⟩
        "/*\n * BSD\n */\n\nfoo();".toList := by
  obtain ⟨htree, hlines⟩ := fix_linked
  have hlink : ∀ text : Text, (linked.replace ⟨"l.rs".toList⟩ text).2.at? ["l.rs".toList] =
      some (.file text.encode) := fun text => by cbv
  have hgone : ∀ text : Text, (linked.replace ⟨"l.rs".toList⟩ text).2.at? [".l.rs.tmp".toList] =
      none := fun text => by cbv
  have hsame : ∀ text : Text, (linked.replace ⟨"l.rs".toList⟩ text).2.at? ["a.rs".toList] =
      some (.file (Text.encode "foo();".toList)) := fun text => by cbv
  rw [htree]
  refine ⟨fun h => ?_, fun h => ?_, fun h => ?_, hlines, fun h => ?_⟩
  · have hkept := h ["l.rs".toList] "a.rs".toList rfl
    rw [hlink] at hkept
    cases hkept
  · obtain ⟨c, hkept⟩ := h [".l.rs.tmp".toList] _ rfl
    rw [hgone] at hkept
    cases hkept
  · have hkept := h [".l.rs.tmp".toList]
    rw [hgone] at hkept
    cases hkept
  · have hkept := h _ _ resolve_linked
    rw [hsame] at hkept
    have htext := Text.decode?_encode "foo();".toList
    rw [Entry.file.inj (Option.some.inj hkept), Text.decode?_encode] at htext
    exact absurd htext (by decide)

end Command

end HeaderCheck
