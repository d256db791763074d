/-
# What a replacement does to the ways of a tree

A replacement puts files in places, takes entries away and may move a link to
another name, and none of this opens or closes a way to a directory: the names
that led to a directory lead to the same one afterwards, and no others do
(`SameWays`).  So every path names the same entry before and behind it.

What carries the argument is that no way to a directory goes through the
places that are touched.  The name of the temporary file has been written to,
and so has, when the replacement is one of a file that was read, the name of
the file: they lead to a file or to nothing, and hence to no directory
(`Blind`).  A link that is moved to the name of the file stays in its
directory (`exists_directory_of_temporary`), so that it leads to where it led
before, which is to no directory.
-/
import HeaderCheck.Proofs.Arrival
import HeaderCheck.Proofs.Directory

namespace HeaderCheck

namespace FileTree

variable {t u v : FileTree} {p temporary : Path} {n n' j k : Nat} {l d m q : Location}
  {e : Entry} {c : ByteArray} {f : Failure} {name name' target text : Text} {a b : List Text}

/-! ## Ways in two parts -/

theorem Leads.append (h : t.Leads n l (a ++ b) k d) :
    ∃ j m k', t.Leads n l a j m ∧ t.Leads j m b k' d := by
  obtain ⟨j, m, hfirst⟩ := exists_leads h.walk_eq (Or.inr ⟨rfl, d, rfl⟩)
  have hwalk := h.walk_eq
  rw [hfirst.walk_append (Or.inr rfl)] at hwalk
  obtain ⟨k', hsecond⟩ := walk_eq_directory_iff.mp hwalk
  exact ⟨j, m, k', hfirst, hsecond⟩

theorem Leads.unique (h : t.Leads n l a k d) (h' : t.Leads n l a j m) : d = m :=
  (Target.found.inj (Except.ok.inj (h.walk_eq.symm.trans h'.walk_eq))).1

/-- Dots lead nowhere. -/
theorem Leads.dots (h : t.Leads n l a k d) (hdots : ∀ x ∈ a, x = ['.']) : d = l := by
  induction h with
  | done => rfl
  | here _ ih => exact ih fun x hx => hdots x (List.mem_cons_of_mem _ hx)
  | parent =>
      have hparent : (['.', '.'] : Text) = ['.'] := hdots _ List.mem_cons_self
      exact absurd hparent (by decide)
  | enter hname => exact absurd (hdots _ List.mem_cons_self) hname.notHere
  | follow hname => exact absurd (hdots _ List.mem_cons_self) hname.notHere

/-! ## Places that no way goes through -/

/-- What has a place leads to no directory, if no more than a number of links
is followed. -/
def Blind (t : FileTree) (n : Nat) (q : Location) : Prop :=
  ∀ d name k d', q = d ++ [name] → ¬ t.Leads n d [name] k d'

theorem blind_concat_iff : t.Blind n (d ++ [name]) ↔ ∀ k d', ¬ t.Leads n d [name] k d' := by
  refine ⟨fun h k d' => h d name k d' rfl, ?_⟩
  rintro h d₀ last k d' heq
  obtain ⟨rfl, hlast⟩ := List.append_inj' heq rfl
  obtain rfl := List.singleton_inj.mp hlast
  exact h k d'

theorem Blind.mono (h : t.Blind n' q) (hn : n ≤ n') : t.Blind n q := by
  intro d name k d' hq hlead
  obtain ⟨k', hlead⟩ := hlead.more hn
  exact h d name k' d' hq hlead

/-- A way does without what leads to no directory. -/
theorem Leads.erase (h : t.Leads n l a k d) (hq : t.Blind n q) : (t.erase q).Leads n l a k d := by
  induction h with
  | done => exact .done
  | here _ ih => exact .here (ih hq)
  | parent _ ih => exact .parent (ih hq)
  | enter hname hat _ ih =>
      refine .enter hname ?_ (ih hq)
      rw [at?_erase_ne, hat]
      rintro rfl
      exact hq _ _ _ _ rfl (.enter hname hat .done)
  | follow hname hat hrest ih =>
      refine .follow hname ?_ (ih (hq.mono (Nat.le_succ _)))
      rw [at?_erase_ne, hat]
      rintro rfl
      obtain ⟨j, m, -, hfirst, -⟩ := hrest.append
      rw [← List.append_nil (steps _)] at hfirst
      exact hq _ _ _ _ rfl (.follow hname hat hfirst)

/-! ### What has been written to -/

theorem Arrives.behind (h : t.Arrives n l (a ++ b) q) (hlead : t.Leads n l a k d) :
    t.Arrives k d b q := by
  rcases h.walk_eq with hwalk | ⟨c, hwalk⟩
  · rw [hlead.walk_append (Or.inr rfl)] at hwalk
    exact arrives_of_walk hwalk (Or.inl rfl)
  · rw [hlead.walk_append (Or.inr rfl)] at hwalk
    exact arrives_of_walk hwalk (Or.inr ⟨c, rfl⟩)

/-- A path with a slash at its end asks for a directory. -/
theorem Receives.noSlash (h : t.Receives p q) : p.spelling.getLast? ≠ some '/' := by
  intro hslash
  obtain ⟨-, harrive⟩ := receives_iff.mp h
  rw [steps_eq, if_pos hslash] at harrive
  obtain ⟨k, d, hlead⟩ := harrive.exists_leads (List.cons_ne_nil _ _)
  exact (harrive.behind hlead).not_leads (.here .done)

/-- What is written to a path gets to its place by the entry that the path
names. -/
theorem arrives_of_receives (h : t.Receives p q) (hl : t.named? p = some (d ++ [name])) :
    ∃ n, t.Arrives n d [name] q := by
  obtain ⟨slash, hl⟩ := named?_eq_some_iff.mp hl
  obtain ⟨-, -, above, last, n, d₀, hnames, -, habove, heq⟩ := resolveName_eq_ok_iff.mp hl
  obtain ⟨rfl, hlast⟩ := List.append_inj' heq rfl
  obtain rfl := List.singleton_inj.mp hlast
  obtain ⟨-, harrive⟩ := receives_iff.mp h
  rw [steps_eq, if_neg h.noSlash, List.append_nil, hnames] at harrive
  exact ⟨n, harrive.behind habove⟩

/-- So that entry leads to no directory. -/
theorem blind_of_receives (h : t.Receives p q) (hl : t.named? p = some l) (n : Nat) :
    t.Blind n l := by
  obtain ⟨d, name, rfl, -⟩ := exists_name_of_named? hl
  obtain ⟨j, harrive⟩ := arrives_of_receives h hl
  refine blind_concat_iff.mpr fun k d' hdir => ?_
  obtain ⟨k', hdir⟩ := hdir.more (Nat.le_max_right j n)
  exact (harrive.more (Nat.le_max_left j n)).not_leads hdir

/-! ## Trees with the same ways -/

/-- The same names lead to the same directories. -/
structure SameWays (t u : FileTree) : Prop where
  current : u.current = t.current
  leads : ∀ n l a k d, u.Leads n l a k d ↔ t.Leads n l a k d

namespace SameWays

theorem refl (t : FileTree) : t.SameWays t :=
  ⟨rfl, fun _ _ _ _ _ => Iff.rfl⟩

theorem symm (h : t.SameWays u) : u.SameWays t :=
  ⟨h.current.symm, fun n l a k d => (h.leads n l a k d).symm⟩

theorem trans (htu : t.SameWays u) (huv : u.SameWays v) : t.SameWays v :=
  ⟨huv.current.trans htu.current,
    fun n l a k d => (huv.leads n l a k d).trans (htu.leads n l a k d)⟩

theorem blind (h : t.SameWays u) (hq : t.Blind n q) : u.Blind n q :=
  fun d name k d' heq hlead => hq d name k d' heq ((h.leads _ _ _ _ _).mp hlead)

theorem named? (h : t.SameWays u) (hp : t.named? p = some l) : u.named? p = some l :=
  named?_of_leads h.current (fun n l a k d => (h.leads n l a k d).mpr) hp

/-- A path names the same entry in both. -/
theorem named?_eq (h : t.SameWays u) : u.named? p = t.named? p := by
  cases ht : t.named? p with
  | some l => exact h.named? ht
  | none =>
      cases hu : u.named? p with
      | none => rfl
      | some l => cases ht.symm.trans (h.symm.named? hu)

end SameWays

theorem sameWays_of_leadsAs (h : t.LeadsAs u) (h' : u.LeadsAs t) : t.SameWays u :=
  ⟨h.current, fun _ _ _ _ _ => ⟨fun hlead => hlead.mono h', fun hlead => hlead.mono h⟩⟩

theorem DeadEnd.sameWays_put (h : t.DeadEnd q) : t.SameWays (t.put q (.file c)) :=
  sameWays_of_leadsAs h.leadsAs_put (put_leadsAs h.ne_nil)

theorem sameWays_erase (hq : ∀ n, t.Blind n q) (hne : q ≠ []) : t.SameWays (t.erase q) :=
  ⟨rfl, fun n _ _ _ _ => ⟨fun h => h.mono (erase_leadsAs hne), fun h => h.erase (hq n)⟩⟩

/-- What is put at a place makes no difference once it is taken away. -/
theorem sameWays_erase_put (hne : m ≠ []) : (t.erase m).SameWays ((t.put m e).erase m) := by
  have hat : ∀ l, ((t.put m e).erase m).at? l = (t.erase m).at? l := by
    intro l
    by_cases hl : l = m
    · rw [hl, at?_erase_self hne, at?_erase_self hne]
    · rw [at?_erase_ne hl, at?_erase_ne hl, at?_put_ne hl]
  exact sameWays_of_leadsAs ⟨rfl, fun l e _ h => (hat l).trans h⟩
    ⟨rfl, fun l e _ h => (hat l).symm.trans h⟩

/-! ## Replacements -/

/-- The entry that a path names leads to no directory. -/
def IsEnd (t : FileTree) (p : Path) : Prop :=
  ∀ m, t.named? p = some m → ∀ n, t.Blind n m

theorem SameWays.isEnd (h : t.SameWays u) (hp : t.IsEnd p) : u.IsEnd p :=
  fun m hm n => h.blind (hp m (h.named?_eq.symm.trans hm) n)

/-- The temporary file is in the directory that the file is in. -/
theorem exists_directory_of_temporary (hm : t.named? p = some m)
    (hslash : p.spelling.getLast? ≠ some '/') (ht : p.temporary? = some temporary)
    (hl : t.named? temporary = some l) :
    ∃ d name name', m = d ++ [name] ∧ IsPlain name ∧ l = d ++ [name'] ∧ IsPlain name' := by
  obtain ⟨_, hm⟩ := named?_eq_some_iff.mp hm
  obtain ⟨_, hl⟩ := named?_eq_some_iff.mp hl
  obtain ⟨-, -, above, name, k, d, hnames, hname, hlead, rfl⟩ := resolveName_eq_ok_iff.mp hm
  obtain ⟨-, -, above', name', k', d', hnames', hname', hlead', rfl⟩ :=
    resolveName_eq_ok_iff.mp hl
  obtain ⟨⟨dots, rfl, hdots⟩, horigin⟩ := Path.names_directory hslash hnames hname.notHere
  obtain ⟨_, htemporary, -, -, -, horigin'⟩ := Path.names_temporary ht
  obtain ⟨rfl, -⟩ := List.append_inj' (hnames'.symm.trans htemporary) rfl
  rw [horigin', horigin] at hlead'
  -- dots at the end of the file's own way lead nowhere
  obtain ⟨j, d₀, _, hfirst, hrest⟩ := hlead.append
  obtain rfl := hrest.dots hdots
  obtain rfl := hfirst.unique hlead'
  exact ⟨d, name, name', rfl, hname, rfl, hname'⟩

/-- What has been put at a place opens no way, if it is a file, or a link from
the same directory that led to no directory. -/
theorem blind_of_moved (hname : IsPlain name) (hways : t.SameWays (u.erase (d ++ [name])))
    (hat : u.at? (d ++ [name]) = some e) (hdir : e ≠ .directory) (hname' : IsPlain name')
    (hlink : ∀ target, e = .link target → t.at? (d ++ [name']) = some (.link target))
    (hl : ∀ n, t.Blind n (d ++ [name'])) (n : Nat) : u.Blind n (d ++ [name]) := by
  induction n using Nat.strongRecOn with
  | ind n ih =>
      refine blind_concat_iff.mpr fun k d' hlead => ?_
      cases hlead with
      | here => exact hname.notHere rfl
      | parent => exact hname.notParent rfl
      | enter _ hat' => exact hdir (Option.some.inj (hat.symm.trans hat'))
      | @follow n _ _ _ _ target _ _ hat' hrest =>
          -- with fewer links the way does without the place, so that the tree had it before
          have hrest := (hways.leads _ _ _ _ _).mp (hrest.erase (ih n (Nat.lt_succ_self n)))
          have htarget := hlink target (Option.some.inj (hat.symm.trans hat'))
          exact hl (n + 1) d name' k d' rfl (.follow hname' htarget hrest)

namespace Stages

variable {k : Location}

theorem blind (h : t.Stages p l k) (n : Nat) : t.Blind n l := by
  obtain ⟨temporary, ht, hr⟩ := h.received
  exact blind_of_receives hr (h.named?_temporary ht) n

/-- With the temporary file written and gone again, all ways are as before. -/
theorem sameWays_erase_put (h : t.Stages p l k) :
    t.SameWays ((t.put k (.file c)).erase l) :=
  h.deadEnd.sameWays_put.trans
    (sameWays_erase (fun n => h.deadEnd.sameWays_put.blind (h.blind n)) h.ne_nil)

end Stages

theorem sameWays_replace_error (h : t.replace p text = (.error f, u)) : t.SameWays u := by
  rcases exists_of_replace_error h with rfl | ⟨l, k, hs, rfl⟩
  · exact .refl u
  · exact hs.sameWays_erase_put

theorem sameWays_replace_ok (h : t.replace p text = (.ok (), u)) (hend : t.IsEnd p) :
    t.SameWays u := by
  obtain ⟨l, k, m, e, hs, hm, hslash, he, -, rfl⟩ := exists_of_replace_ok h
  obtain ⟨temporary, ht, hr⟩ := hs.received
  obtain ⟨d, name, name', rfl, hname, rfl, hname'⟩ :=
    exists_directory_of_temporary hm hslash ht (hs.named?_temporary ht)
  have hne : d ++ [name] ≠ [] := ne_nil_of_named? hm
  have hgone := hs.sameWays_erase_put (c := text.encode)
  have hwithout := (hgone.trans (sameWays_erase (fun n => hgone.blind (hend _ hm n)) hne)).trans
    (sameWays_erase_put (e := e) hne)
  have hdir : e ≠ .directory := by
    obtain ⟨e', he', hdir⟩ := hs.exists_at?_put text.encode
    obtain rfl := Option.some.inj (he.symm.trans he')
    exact hdir
  have hlink : ∀ target, e = .link target → t.at? (d ++ [name']) = some (.link target) := by
    rintro target rfl
    rcases hs.at?_put text.encode with ⟨target', hat, hput⟩ | ⟨-, -, hput⟩
    · rw [hat, ← hput, he]
    · cases he.symm.trans hput
  have hblind := blind_of_moved hname hwithout (at?_put_self hne) hdir hname' hlink hs.blind
  exact hwithout.trans (sameWays_erase hblind hne).symm

/-- **A replacement keeps the ways of the tree**, if none goes through the entry
that it is of. -/
theorem sameWays_replace (text : Text) (hend : t.IsEnd p) : t.SameWays (t.replace p text).2 := by
  cases hr : t.replace p text with
  | mk result u =>
      cases result with
      | ok _ => exact sameWays_replace_ok hr hend
      | error f => exact sameWays_replace_error hr

end FileTree

end HeaderCheck
