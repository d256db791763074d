/-
# What replacing a file touches

A replacement writes to a temporary file and moves that over the file.  The
name of the temporary file is made from the file's own, and what has that
name already is not asked about: a file is written over, a link is followed,
and whatever the name holds behind the write is what is moved.  These spare
entries apart (`Spare`), a replacement that goes well changes the one entry
that it was asked for, and one that fails changes none.

The argument is in two steps.  What a text is written to is a place that
leads nowhere, before and behind the write (`DeadEnd`), so that every path
names the same entry in both trees (`LeadsAs.named?_eq`); and the temporary
file is named by its path wherever it can be written to
(`named?_of_receives`), so that it is there to be moved, and to be removed.

That the path leads to the new file afterwards has a condition of its own.
The way to the file may go through the link that the file takes the place
of, as `a/a` does where `a` is a link to the directory it is in.
-/
import Mathlib
import HeaderCheck.Replace
import HeaderCheck.Proofs.Components
import HeaderCheck.Proofs.Steps

namespace HeaderCheck

namespace FileTree

variable {t u v : FileTree} {p q : Path} {l m k : Location} {e : Entry} {c : ByteArray}
  {text : Text}

/-! ## Places that lead nowhere -/

/-- There is no directory and no link at a place. -/
def DeadEnd (t : FileTree) (l : Location) : Prop :=
  ∀ e, t.at? l = some e → ∃ c, e = .file c

theorem deadEnd_of_none (h : t.at? l = none) : t.DeadEnd l := by
  intro e he
  rw [h] at he
  cases he

theorem deadEnd_of_file (h : t.at? l = some (.file c)) : t.DeadEnd l := by
  intro e he
  rw [h] at he
  exact ⟨c, (Option.some.inj he).symm⟩

theorem deadEnd_of_ne (hd : t.at? l ≠ some .directory)
    (hl : ∀ target, t.at? l ≠ some (.link target)) : t.DeadEnd l := by
  intro e he
  cases e with
  | directory => exact absurd he hd
  | file c => exact ⟨c, rfl⟩
  | link target => exact absurd he (hl target)

theorem DeadEnd.of_at?_eq (h : t.DeadEnd l) (hat : u.at? l = t.at? l) : u.DeadEnd l := by
  intro e he
  exact h e (hat.symm.trans he)

theorem DeadEnd.erase (h : t.DeadEnd l) (hm : m ≠ []) : (t.erase m).DeadEnd l := by
  by_cases hlm : l = m
  · subst hlm
    exact deadEnd_of_none (at?_erase_self hm)
  · exact h.of_at?_eq (at?_erase_ne hlm)

theorem DeadEnd.ne_nil (h : t.DeadEnd l) : l ≠ [] := by
  rintro rfl
  obtain ⟨c, hc⟩ := h .directory (by rw [at?, if_pos rfl])
  cases hc

theorem LeadsAs.trans (htu : t.LeadsAs u) (huv : u.LeadsAs v) : t.LeadsAs v :=
  ⟨huv.current.trans htu.current,
    fun l e he hat => huv.ways l e he (htu.ways l e he hat)⟩

/-- A file in a place that leads nowhere takes no way away. -/
theorem DeadEnd.leadsAs_put (h : t.DeadEnd k) : t.LeadsAs (t.put k (.file c)) := by
  refine ⟨rfl, fun l e he hat => ?_⟩
  have hne : l ≠ k := by
    rintro rfl
    obtain ⟨b, hb⟩ := h e hat
    exact he b hb
  rw [at?_put_ne hne]
  exact hat

/-- And it opens none. -/
theorem put_leadsAs (h : k ≠ []) : (t.put k (.file c)).LeadsAs t := by
  refine ⟨rfl, fun l e he hat => ?_⟩
  have hne : l ≠ k := by
    rintro rfl
    rw [at?_put_self h] at hat
    exact he c (Option.some.inj hat).symm
  rw [at?_put_ne hne] at hat
  exact hat

theorem DeadEnd.directory_put (h : t.DeadEnd k) :
    (t.put k (.file c)).at? m = some .directory ↔ t.at? m = some .directory :=
  ⟨(put_leadsAs h.ne_nil).ways m _ (by simp), h.leadsAs_put.ways m _ (by simp)⟩

theorem DeadEnd.leadsAs_erase (h : t.DeadEnd l) : t.LeadsAs (t.erase l) := by
  refine ⟨rfl, fun m e he hat => ?_⟩
  have hne : m ≠ l := by
    rintro rfl
    obtain ⟨b, hb⟩ := h e hat
    exact he b hb
  rw [at?_erase_ne hne]
  exact hat

/-- A way that needs neither of two places is still there when a text has
been written and an entry moved from one to the other. -/
theorem DeadEnd.leadsAs_move (h : t.DeadEnd k) (hl : l ≠ []) (hm : m ≠ []) :
    ((t.erase m).erase l).LeadsAs (((t.put k (.file c)).erase l).put m e) := by
  refine ⟨rfl, fun w e' he hat => ?_⟩
  have hwl : w ≠ l := by
    rintro rfl
    rw [at?_erase_self hl] at hat
    cases hat
  rw [at?_erase_ne hwl] at hat
  have hwm : w ≠ m := by
    rintro rfl
    rw [at?_erase_self hm] at hat
    cases hat
  rw [at?_erase_ne hwm] at hat
  rw [at?_put_ne hwm, at?_erase_ne hwl]
  exact h.leadsAs_put.ways w e' he hat

/-! ## What a path names -/

/-- The place of the entry that a path names, if it can name one. -/
def named? (t : FileTree) (p : Path) : Option Location :=
  (t.resolveName p).toOption.map (·.1)

theorem named?_eq_some_iff :
    t.named? p = some l ↔ ∃ slash, t.resolveName p = .ok (l, slash) := by
  rw [named?]
  cases t.resolveName p with
  | error fault => simp [Except.toOption]
  | ok x =>
      obtain ⟨m, slash⟩ := x
      simp [Except.toOption]

theorem exists_name_of_named? (h : t.named? p = some l) :
    ∃ d name, l = d ++ [name] ∧ IsPlain name := by
  obtain ⟨slash, h⟩ := named?_eq_some_iff.mp h
  obtain ⟨-, -, above, name, n, d, -, hname, -, rfl⟩ := resolveName_eq_ok_iff.mp h
  exact ⟨d, name, rfl, hname⟩

theorem ne_nil_of_named? (h : t.named? p = some l) : l ≠ [] := by
  obtain ⟨d, name, rfl, -⟩ := exists_name_of_named? h
  simp

/-- It is named wherever the names before it lead to the same directory. -/
theorem named?_of_leads (hcurrent : u.current = t.current)
    (hleads : ∀ n l a k d, t.Leads n l a k d → u.Leads n l a k d) (hp : t.named? p = some l) :
    u.named? p = some l := by
  obtain ⟨slash, hp⟩ := named?_eq_some_iff.mp hp
  obtain ⟨hcheck, hslash, above, name, k, d, hnames, hname, hlead, hm⟩ :=
    resolveName_eq_ok_iff.mp hp
  refine named?_eq_some_iff.mpr ⟨slash, resolveName_eq_ok_iff.mpr
    ⟨hcheck, hslash, above, name, k, d, hnames, hname, ?_, hm⟩⟩
  rw [origin, hcurrent]
  exact hleads _ _ _ _ _ hlead

theorem LeadsAs.origin_eq (h : t.LeadsAs u) (path : Text) : u.origin path = t.origin path := by
  rw [origin, origin, h.current]

theorem LeadsAs.named? (h : t.LeadsAs u) (hp : t.named? p = some l) : u.named? p = some l :=
  named?_of_leads h.current (fun _ _ _ _ _ hlead => hlead.mono h) hp

/-! ## Writing -/

/-- Where a text gets that is written to a path: to a name that is not there
yet, or to a file. -/
def Receives (t : FileTree) (p : Path) (k : Location) : Prop :=
  t.resolve p = .ok (.absent k) ∨ ∃ c, t.resolve p = .ok (.found k (.file c))

theorem Receives.deadEnd (h : t.Receives p k) : t.DeadEnd k := by
  rcases h with h | ⟨c, h⟩
  · exact deadEnd_of_none (holds_of_walk (resolve_eq_ok_iff.mp h).2)
  · exact deadEnd_of_file (holds_of_walk (resolve_eq_ok_iff.mp h).2)

theorem write_eq_ok_iff :
    t.write p text = .ok u ↔ ∃ k, t.Receives p k ∧ u = t.put k (.file text.encode) := by
  rw [write]
  constructor
  · intro h
    cases hr : t.resolve p with
    | error fault =>
        rw [hr] at h
        cases h
    | ok x =>
        rw [hr] at h
        cases x with
        | absent k => exact ⟨k, Or.inl hr, (Except.ok.inj h).symm⟩
        | found k e =>
            cases e with
            | directory => cases h
            | file c => exact ⟨k, Or.inr ⟨c, hr⟩, (Except.ok.inj h).symm⟩
            | link target => exact (holds_of_walk (resolve_eq_ok_iff.mp hr).2).elim
  · rintro ⟨k, hr | ⟨c, hr⟩, rfl⟩
    · rw [hr]
      rfl
    · rw [hr]
      rfl

end FileTree

/-! ## The temporary file -/

/-- The path of a temporary file ends in a name, behind the directory of the
file. -/
theorem Path.names_temporary {p q : Path} (h : p.temporary? = some q) :
    ∃ name, q.names = p.directory.names ++ [name] ∧ name ≠ ['.'] ∧ name ≠ ['.', '.'] ∧
      q.spelling.getLast? ≠ some '/' ∧
      ∀ t : FileTree, t.origin q.spelling = t.origin p.directory.spelling := by
  obtain ⟨name, hname, rfl⟩ := Option.map_eq_some_iff.mp h
  have hslash : '/' ∉ name := Text.not_mem_splitOn (mem_pieces_of_fileName? hname)
  have hs : '/' ∉ '.' :: name ++ ".tmp".toList := by
    simp [hslash]
  have hne : '.' :: name ++ ".tmp".toList ≠ [] := by simp
  refine ⟨'.' :: name ++ ".tmp".toList, names_join hne hs, ?_, ?_, ?_, fun t => origin_join t hs⟩
  · intro heq
    simpa using congrArg List.length heq
  · intro heq
    simpa using congrArg List.length heq
  · rw [getLast?_join hne]
    intro hlast
    exact hs (List.mem_of_getLast? hlast)

namespace FileTree

variable {t u : FileTree} {p q : Path} {l m k : Location} {text : Text} {e : Failure}

/-- A path that a text can be written to names an entry, if it ends in a
name: the one that the text gets to, or a link. -/
theorem named?_of_receives {above : List Text} {name : Text} (hnames : p.names = above ++ [name])
    (hhere : name ≠ ['.']) (hparent : name ≠ ['.', '.']) (hslash : p.spelling.getLast? ≠ some '/')
    (h : t.Receives p k) :
    ∃ l, t.named? p = some l ∧ (k = l ∨ ∃ target, t.at? l = some (.link target)) := by
  obtain ⟨x, hx, hreach⟩ :
      ∃ x, t.resolve p = .ok x ∧ (x = .absent k ∨ ∃ c, x = .found k (.file c)) := by
    rcases h with h | ⟨c, h⟩
    · exact ⟨_, h, Or.inl rfl⟩
    · exact ⟨_, h, Or.inr ⟨c, rfl⟩⟩
  obtain ⟨hcheck, hwalk⟩ := resolve_eq_ok_iff.mp hx
  rw [steps_eq, if_neg hslash, List.append_nil, hnames] at hwalk
  obtain ⟨n, d, hlead⟩ := exists_leads hwalk (Or.inl (List.cons_ne_nil _ _))
  rw [hlead.walk_append (Or.inr rfl)] at hwalk
  have hshort : ¬ maxNameWidth < Text.width name := by
    intro hlong
    rw [walk, if_neg hhere, if_neg hparent, if_pos hlong] at hwalk
    cases hwalk
  have hname : IsPlain name := ⟨hhere, hparent, Nat.not_lt.mp hshort⟩
  refine ⟨d ++ [name], named?_eq_some_iff.mpr ⟨false, resolveName_eq_ok_iff.mpr
    ⟨hcheck, by simp [hslash], above, name, n, d, hnames, hname, hlead, rfl⟩⟩, ?_⟩
  rcases walk_name hname hwalk with ⟨-, rfl⟩ | ⟨e, -, -, rfl⟩ | ⟨-, target, -, hat, -⟩
  · rcases hreach with hk | ⟨c, hk⟩
    · exact Or.inl (Target.absent.inj hk).symm
    · cases hk
  · rcases hreach with hk | ⟨c, hk⟩
    · cases hk
    · exact Or.inl (Target.found.inj hk).1.symm
  · exact Or.inr ⟨target, hat⟩

/-- A text has got to a path's temporary file: the place that the file has,
and the place that the text got to, which are one unless there is a link in
the first. -/
structure Stages (t : FileTree) (p : Path) (l k : Location) : Prop where
  named : p.temporary?.bind t.named? = some l
  received : ∃ temporary, p.temporary? = some temporary ∧ t.Receives temporary k
  lodged : k = l ∨ ∃ target, t.at? l = some (.link target)

theorem exists_stages {temporary : Path} (ht : p.temporary? = some temporary)
    (h : t.Receives temporary k) : ∃ l, t.Stages p l k := by
  obtain ⟨name, hnames, hhere, hparent, hslash, -⟩ := Path.names_temporary ht
  obtain ⟨l, hl, hk⟩ := named?_of_receives hnames hhere hparent hslash h
  exact ⟨l, by rw [ht]; exact hl, ⟨temporary, ht, h⟩, hk⟩

/-! ## Spare entries -/

/-- What has the name of a path's temporary file. -/
def lodger? (t : FileTree) (p : Path) : Option Entry :=
  (p.temporary?.bind t.named?).bind t.at?

/-- The places of the entries that pass for a path's temporary file: the one
that has its name, and the one that it leads to if it is a link.  Only what
can be written to counts. -/
def Spare (t : FileTree) (p : Path) (q : Location) : Prop :=
  ∃ l k, t.Stages p l k ∧ (t.at? l).isSome = true ∧ (q = l ∨ q = k)

namespace Stages

variable {q : Location}

theorem lodger?_eq (h : t.Stages p l k) : t.lodger? p = t.at? l := by
  rw [lodger?, h.named, Option.bind_some]

theorem deadEnd (h : t.Stages p l k) : t.DeadEnd k := by
  obtain ⟨temporary, -, hr⟩ := h.received
  exact hr.deadEnd

theorem ne_nil (h : t.Stages p l k) : l ≠ [] := by
  obtain ⟨temporary, -, hl⟩ := Option.bind_eq_some_iff.mp h.named
  exact ne_nil_of_named? hl

theorem named?_temporary {temporary : Path} (h : t.Stages p l k)
    (ht : p.temporary? = some temporary) : t.named? temporary = some l := by
  have hl := h.named
  rwa [ht] at hl

theorem named?_put {temporary : Path} (h : t.Stages p l k)
    (ht : p.temporary? = some temporary) (c : ByteArray) :
    (t.put k (.file c)).named? temporary = some l :=
  h.deadEnd.leadsAs_put.named? (h.named?_temporary ht)

/-- Behind the write, the temporary file's name has the text, or the link
that it had. -/
theorem at?_put (h : t.Stages p l k) (c : ByteArray) :
    (∃ target, t.at? l = some (.link target) ∧
        (t.put k (.file c)).at? l = some (.link target)) ∨
      ((∀ target, t.at? l ≠ some (.link target)) ∧ k = l ∧
        (t.put k (.file c)).at? l = some (.file c)) := by
  by_cases hlink : ∃ target, t.at? l = some (.link target)
  · obtain ⟨target, hat⟩ := hlink
    have hne : l ≠ k := by
      rintro rfl
      obtain ⟨b, hb⟩ := h.deadEnd _ hat
      cases hb
    refine Or.inl ⟨target, hat, ?_⟩
    rw [at?_put_ne hne]
    exact hat
  · have hk : k = l := h.lodged.resolve_right hlink
    refine Or.inr ⟨not_exists.mp hlink, hk, ?_⟩
    rw [hk]
    exact at?_put_self h.ne_nil

theorem exists_at?_put (h : t.Stages p l k) (c : ByteArray) :
    ∃ e, (t.put k (.file c)).at? l = some e ∧ e ≠ .directory := by
  rcases h.at?_put c with ⟨target, -, hat⟩ | ⟨-, -, hat⟩
  · exact ⟨_, hat, by simp⟩
  · exact ⟨_, hat, by simp⟩

/-- With the temporary file written and gone again, only spare entries have
changed. -/
theorem at?_erase_put (h : t.Stages p l k) {c : ByteArray} (hq : ¬ t.Spare p q) :
    ((t.put k (.file c)).erase l).at? q = t.at? q := by
  by_cases hql : q = l
  · subst hql
    rw [at?_erase_self h.ne_nil]
    cases hat : t.at? q with
    | none => rfl
    | some e => exact absurd ⟨q, k, h, by rw [hat]; rfl, Or.inl rfl⟩ hq
  rw [at?_erase_ne hql]
  -- a change elsewhere is one behind a link, and the name has that link
  by_cases hqk : q = k
  · rcases h.lodged with hk | ⟨target, hat⟩
    · exact absurd (hqk.trans hk) hql
    · exact absurd ⟨l, k, h, by rw [hat]; rfl, Or.inr hqk⟩ hq
  · exact at?_put_ne hqk

end Stages

/-- Where there is no entry for it, or a directory, no entry is spare. -/
theorem not_spare (h : ∀ e, t.lodger? p = some e → e = .directory) (q : Location) :
    ¬ t.Spare p q := by
  rintro ⟨l, k, hs, hsome, -⟩
  obtain ⟨e, hat⟩ := Option.isSome_iff_exists.mp hsome
  obtain rfl := h e (hs.lodger?_eq.trans hat)
  rcases hs.lodged with rfl | ⟨target, hlink⟩
  · obtain ⟨c, hc⟩ := hs.deadEnd _ hat
    cases hc
  · rw [hat] at hlink
    cases hlink

/-! ## The two outcomes -/

/-- An entry is moved if both paths name one, the second without a slash
behind it, and there is something to move and no directory in its way. -/
theorem move_eq_ok_iff :
    t.move p q = .ok u ↔ ∃ l m e, t.named? p = some l ∧ t.named? q = some m ∧
      q.spelling.getLast? ≠ some '/' ∧ t.at? l = some e ∧ t.at? m ≠ some .directory ∧
      u = (t.erase l).put m e := by
  rw [move]
  constructor
  · intro h
    obtain ⟨⟨l, s⟩, hl, h⟩ := bind_eq_ok_iff.mp h
    obtain ⟨⟨m, slash⟩, hm, h⟩ := bind_eq_ok_iff.mp h
    simp only at h
    split at h
    next => cases h
    next e hat =>
      split at h
      next => cases h
      next hslash =>
        split at h
        next => cases h
        next hdir =>
          have hlast : q.spelling.getLast? ≠ some '/' := by
            intro hlast
            rw [(resolveName_eq_ok_iff.mp hm).2.1, hlast] at hslash
            exact hslash (decide_eq_true rfl)
          exact ⟨l, m, e, named?_eq_some_iff.mpr ⟨s, hl⟩, named?_eq_some_iff.mpr ⟨slash, hm⟩,
            hlast, hat, hdir, (Except.ok.inj h).symm⟩
  · rintro ⟨l, m, e, hl, hm, hlast, hat, hdir, rfl⟩
    obtain ⟨s, hl⟩ := named?_eq_some_iff.mp hl
    obtain ⟨slash, hm⟩ := named?_eq_some_iff.mp hm
    have hslash : slash = false := by
      rw [(resolveName_eq_ok_iff.mp hm).2.1]
      exact decide_eq_false hlast
    subst hslash
    rw [hl, hm]
    simp only [bind, Except.bind, hat, Bool.false_eq_true, if_false, if_neg hdir]
    rfl

theorem remove_eq (h : t.named? p = some l) (hdir : t.at? l ≠ some .directory) :
    t.remove p = t.erase l := by
  obtain ⟨slash, hl⟩ := named?_eq_some_iff.mp h
  rw [remove, hl]
  simp only [if_neg hdir]

/-- Either nothing has been written, or the temporary file has and is moved
or removed. -/
theorem replace_cases (t : FileTree) (p : Path) (text : Text) :
    (∃ fault, t.replace p text = (.error fault, t)) ∨
      ∃ temporary l k, t.Stages p l k ∧
        (t.put k (.file text.encode)).named? temporary = some l ∧
        t.replace p text =
          match (t.put k (.file text.encode)).move temporary p with
          | .ok moved => (.ok (), moved)
          | .error fault =>
              (.error (.notReplaced p fault), (t.put k (.file text.encode)).erase l) := by
  rw [replace]
  cases ht : p.temporary? with
  | none => exact Or.inl ⟨_, rfl⟩
  | some temporary =>
      cases hw : t.write temporary text with
      | error fault => exact Or.inl ⟨.temporaryUnwritten temporary fault, by simp only [hw]⟩
      | ok written =>
          obtain ⟨k, hr, rfl⟩ := write_eq_ok_iff.mp hw
          obtain ⟨l, hs⟩ := exists_stages ht hr
          have hnamed := hs.named?_put ht text.encode
          obtain ⟨e, hat, hne⟩ := hs.exists_at?_put text.encode
          have hdir : (t.put k (.file text.encode)).at? l ≠ some .directory := by
            rw [hat]
            exact fun he => hne (Option.some.inj he)
          refine Or.inr ⟨temporary, l, k, hs, hnamed, ?_⟩
          cases hm : (t.put k (.file text.encode)).move temporary p with
          | ok moved => simp only [hw, hm]
          | error fault => simp only [hw, hm, remove_eq hnamed hdir]

/-- What has been moved: to the path's own place, where there is no
directory, the entry of the temporary file. -/
theorem exists_of_replace_ok (h : t.replace p text = (.ok (), u)) :
    ∃ l k m e, t.Stages p l k ∧ t.named? p = some m ∧ p.spelling.getLast? ≠ some '/' ∧
      (t.put k (.file text.encode)).at? l = some e ∧ t.at? m ≠ some .directory ∧
      u = ((t.put k (.file text.encode)).erase l).put m e := by
  rcases replace_cases t p text with ⟨fault, hfault⟩ | ⟨temporary, l, k, hs, hnamed, hrun⟩
  · rw [hfault] at h
    cases h
  rw [hrun] at h
  split at h
  next moved hmove =>
    obtain ⟨-, rfl⟩ := Prod.mk.inj h
    obtain ⟨l', m, e, hl, hm, hslash, hat, hdir, rfl⟩ := move_eq_ok_iff.mp hmove
    obtain rfl : l = l' := Option.some.inj (hnamed.symm.trans hl)
    exact ⟨l, k, m, e, hs, (put_leadsAs hs.deadEnd.ne_nil).named? hm, hslash, hat,
      mt hs.deadEnd.directory_put.mpr hdir, rfl⟩
  next => cases (Prod.mk.inj h).1

/-- What is left when nothing has been moved: the tree as it was, or without
the entry of the temporary file. -/
theorem exists_of_replace_error (h : t.replace p text = (.error e, u)) :
    u = t ∨ ∃ l k, t.Stages p l k ∧ u = (t.put k (.file text.encode)).erase l := by
  rcases replace_cases t p text with ⟨fault, hfault⟩ | ⟨temporary, l, k, hs, -, hrun⟩
  · rw [hfault] at h
    exact Or.inl (Prod.mk.inj h).2.symm
  · rw [hrun] at h
    split at h
    next => cases (Prod.mk.inj h).1
    next => exact Or.inr ⟨l, k, hs, (Prod.mk.inj h).2.symm⟩

/-- It goes well exactly if the temporary file can be written, and the path
names an entry that is no directory, without a slash behind it. -/
theorem fst_replace_eq_ok_iff :
    (t.replace p text).1 = .ok () ↔
      ∃ temporary k m, p.temporary? = some temporary ∧ t.Receives temporary k ∧
        t.named? p = some m ∧ p.spelling.getLast? ≠ some '/' ∧ t.at? m ≠ some .directory := by
  constructor
  · intro h
    obtain ⟨l, k, m, e, hs, hm, hslash, -, hdir, -⟩ := exists_of_replace_ok (Prod.ext h rfl)
    obtain ⟨temporary, ht, hr⟩ := hs.received
    exact ⟨temporary, k, m, ht, hr, hm, hslash, hdir⟩
  · rintro ⟨temporary, k, m, ht, hr, hm, hslash, hdir⟩
    obtain ⟨l, hs⟩ := exists_stages ht hr
    have hwrite : t.write temporary text = .ok (t.put k (.file text.encode)) :=
      write_eq_ok_iff.mpr ⟨k, hr, rfl⟩
    obtain ⟨e, hat, -⟩ := hs.exists_at?_put text.encode
    have hmove : (t.put k (.file text.encode)).move temporary p =
        .ok (((t.put k (.file text.encode)).erase l).put m e) :=
      move_eq_ok_iff.mpr ⟨l, m, e, hs.named?_put ht _, hs.deadEnd.leadsAs_put.named? hm, hslash,
        hat, mt hs.deadEnd.directory_put.mp hdir, rfl⟩
    simp only [replace, ht, hwrite, hmove]

/-- A path leads to the file that it names. -/
theorem lookup?_of_named {c : ByteArray} (h : t.named? p = some m)
    (hslash : p.spelling.getLast? ≠ some '/') (hat : t.at? m = some (.file c)) :
    t.lookup? p = some (.file c) := by
  obtain ⟨slash, hname⟩ := named?_eq_some_iff.mp h
  obtain ⟨hcheck, -, above, name, n, d, hnames, hplain, hlead, rfl⟩ :=
    resolveName_eq_ok_iff.mp hname
  have hwalk : t.resolve p = .ok (.found (d ++ [name]) (.file c)) := by
    refine resolve_eq_ok_iff.mpr ⟨hcheck, ?_⟩
    rw [steps_eq, if_neg hslash, List.append_nil, hnames, hlead.walk_append (Or.inr rfl),
      walk_plain hplain, hat]
    rfl
  rw [lookup?, hwalk]

/-- The path leads to the new file, if the way to its directory does not go
through what the file takes the place of. -/
theorem Stages.lookup?_eq {c : ByteArray} (h : t.Stages p l l)
    (hm : (t.erase m).named? p = some m) (hslash : p.spelling.getLast? ≠ some '/') :
    (((t.put l (.file c)).erase l).put m (.file c)).lookup? p = some (.file c) := by
  have hne := ne_nil_of_named? hm
  -- directories and links that are there without `m` have been neither written nor erased
  have hways : (t.erase m).LeadsAs (((t.put l (.file c)).erase l).put m (.file c)) :=
    (h.deadEnd.erase hne).leadsAs_erase.trans (h.deadEnd.leadsAs_move h.ne_nil hne)
  exact lookup?_of_named (hways.named? hm) hslash (at?_put_self hne)

theorem touches_of_replace_error (h : t.replace p text = (.error e, u)) :
    u.current = t.current ∧ ∀ q, ¬ t.Spare p q → u.at? q = t.at? q := by
  rcases exists_of_replace_error h with rfl | ⟨l, k, hs, rfl⟩
  · exact ⟨rfl, fun q _ => rfl⟩
  · exact ⟨rfl, fun q hq => hs.at?_erase_put hq⟩

/-! ## What a replacement changes -/

/-- A replacement changes the entry that its path names, and no other; and
none if it fails. -/
def ReplacesAlone (t : FileTree) (p : Path) (text : Text) : Prop :=
  match t.replace p text with
  | (.ok (), u) => ∃ m, t.named? p = some m ∧ u.at? m = some (.file text.encode) ∧
      ∀ q, q ≠ m → u.at? q = t.at? q
  | (.error _, u) => ∀ q, u.at? q = t.at? q

/-- It does so where nothing, or a directory, has the name of the temporary
file. -/
theorem replacesAlone_of_vacant (h : ∀ e, t.lodger? p = some e → e = .directory) :
    t.ReplacesAlone p text := by
  have hspare := not_spare h
  rw [ReplacesAlone]
  split
  next u hrun =>
    obtain ⟨l, k, m, e, hs, hm, -, he, -, rfl⟩ := exists_of_replace_ok hrun
    refine ⟨m, hm, ?_, fun q hqm => (at?_put_ne hqm).trans (hs.at?_erase_put (hspare q))⟩
    rcases hs.at?_put text.encode with ⟨target, hat, -⟩ | ⟨-, -, hput⟩
    · cases h _ (hs.lodger?_eq.trans hat)
    · rw [at?_put_self (ne_nil_of_named? hm), he.symm.trans hput]
  next fault u hrun => exact fun q => (touches_of_replace_error hrun).2 q (hspare q)

/-- **A replacement touches its target and spare entries only.**  When it
goes well, the entry that the path names is the file with the text, or else
the link that had the name of the temporary file, and any other entry that
is not spare is as before; when it fails, any entry that is not spare is.
The path leads to the new file, unless its way goes through the link that
the file takes the place of.  Where nothing, or a directory, has the name of
the temporary file, the target alone is touched.  And it goes well exactly
if the temporary file can be written, and the path names an entry that is no
directory, without a slash behind it. -/
theorem replace_touches (t : FileTree) (p : Path) (text : Text) :
    (match t.replace p text with
      | (.ok (), u) =>
          u.current = t.current ∧ ∃ m, t.named? p = some m ∧
            (∀ q, q ≠ m → ¬ t.Spare p q → u.at? q = t.at? q) ∧
            ((∃ target, t.lodger? p = some (.link target) ∧ u.at? m = some (.link target)) ∨
              ((∀ target, t.lodger? p ≠ some (.link target)) ∧
                u.at? m = some (.file text.encode) ∧
                ((∀ target, t.at? m ≠ some (.link target)) ∨ (t.erase m).named? p = some m →
                  u.lookup? p = some (.file text.encode))))
      | (.error _, u) => u.current = t.current ∧ ∀ q, ¬ t.Spare p q → u.at? q = t.at? q) ∧
      ((∀ e, t.lodger? p = some e → e = .directory) → t.ReplacesAlone p text) ∧
      ((t.replace p text).1 = .ok () ↔
        ∃ temporary k m, p.temporary? = some temporary ∧ t.Receives temporary k ∧
          t.named? p = some m ∧ p.spelling.getLast? ≠ some '/' ∧ t.at? m ≠ some .directory) := by
  refine ⟨?_, replacesAlone_of_vacant, fst_replace_eq_ok_iff⟩
  split
  next u hrun =>
    obtain ⟨l, k, m, e, hs, hm, hslash, he, hdir, rfl⟩ := exists_of_replace_ok hrun
    refine ⟨rfl, m, hm, fun q hqm hq => (at?_put_ne hqm).trans (hs.at?_erase_put hq), ?_⟩
    rw [hs.lodger?_eq, at?_put_self (ne_nil_of_named? hm)]
    rcases hs.at?_put text.encode with ⟨target, hat, hput⟩ | ⟨hlink, rfl, hput⟩
    · obtain rfl := Option.some.inj (he.symm.trans hput)
      exact Or.inl ⟨target, hat, rfl⟩
    · obtain rfl := Option.some.inj (he.symm.trans hput)
      refine Or.inr ⟨hlink, rfl, fun hway => hs.lookup?_eq ?_ hslash⟩
      rcases hway with hnolink | hway
      · exact (deadEnd_of_ne hdir hnolink).leadsAs_erase.named? hm
      · exact hway
  next fault u hrun => exact touches_of_replace_error hrun

/-- The file takes the place of a link that the way to it goes through. -/
example :
    let t : FileTree := { entries := [(["a".toList], .link ".".toList)], current := [] }
    (t.replace ⟨"a/a".toList⟩ "new".toList).1 = .ok () ∧
      (t.replace ⟨"a/a".toList⟩ "new".toList).2.lookup? ⟨"a/a".toList⟩ = none := by
  cbv

/-- A directory with a file, and another one that has the name of its
temporary file. -/
def crowded : FileTree :=
  { entries := [(["a.rs".toList], .file (Text.encode "old".toList)),
      ([".a.rs.tmp".toList], .file (Text.encode "keep".toList))]
    current := [] }

/-- The other file is gone when the replacement has been made. -/
theorem not_replacesAlone_crowded :
    ¬ crowded.ReplacesAlone ⟨"a.rs".toList⟩ "new".toList := by
  have hrun : (crowded.replace ⟨"a.rs".toList⟩ "new".toList).1 = .ok () := by cbv
  have hgone : (crowded.replace ⟨"a.rs".toList⟩ "new".toList).2.at? [".a.rs.tmp".toList] =
      none := by cbv
  have hname : crowded.named? ⟨"a.rs".toList⟩ = some ["a.rs".toList] := by cbv
  have hkeep : crowded.at? [".a.rs.tmp".toList] = some (.file (Text.encode "keep".toList)) := rfl
  rw [ReplacesAlone]
  split
  next u hu =>
    rintro ⟨m, hm, -, hothers⟩
    obtain rfl := Option.some.inj (hname.symm.trans hm)
    have hkept := hothers [".a.rs.tmp".toList] (by decide)
    rw [hu] at hgone
    rw [hgone, hkeep] at hkept
    cases hkept
  next fault u hu =>
    rw [hu] at hrun
    cases hrun

end FileTree

end HeaderCheck
