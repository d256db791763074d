/-
# Where a text arrives

What is written to a path gets to a place that leads nowhere, and links may be
followed on the way, the last name's included.  `Arrives` is that way by
itself: the one that names take to such a place, with no more than a number of
links.  It stays the same in every tree that has the directories and links on
it (`Arrives.mono`), and with more links to follow (`Arrives.more`).

A link that has been moved to another name, as a replacement does with a link
that has the name of the temporary file, leads to where it led before.  It
does not lead through itself: a way that came back to it would have to follow
it again and again, so that what comes behind the last time is the whole way
(`Arrives.exists_last`), and this one does without the link
(`Arrives.behind_link`).
-/
import HeaderCheck.Proofs.Replacement

namespace HeaderCheck

namespace FileTree

variable {t u : FileTree} {p : Path} {n n' k : Nat} {l d q q' : Location} {name target : Text}
  {a b rest : List Text} {x : Target}

/-- Names lead from a directory to a place that a text can be written to, if
no more than a number of links is followed. -/
inductive Arrives (t : FileTree) : Nat → Location → List Text → Location → Prop
  | last {n : Nat} {l : Location} {name : Text} :
      IsPlain name → t.DeadEnd (l ++ [name]) → Arrives t n l [name] (l ++ [name])
  | here {n : Nat} {l q : Location} {rest : List Text} :
      Arrives t n l rest q → Arrives t n l (['.'] :: rest) q
  | parent {n : Nat} {l q : Location} {rest : List Text} :
      Arrives t n l.dropLast rest q → Arrives t n l (['.', '.'] :: rest) q
  | enter {n : Nat} {l q : Location} {name : Text} {rest : List Text} :
      IsPlain name → t.at? (l ++ [name]) = some .directory →
      Arrives t n (l ++ [name]) rest q → Arrives t n l (name :: rest) q
  | follow {n : Nat} {l q : Location} {name target : Text} {rest : List Text} :
      IsPlain name → t.at? (l ++ [name]) = some (.link target) →
      Arrives t n (start target l) (steps target ++ rest) q → Arrives t (n + 1) l (name :: rest) q

/-! ## Ways and walks -/

/-- The walk along a way ends at its place. -/
theorem Arrives.walk_eq (h : t.Arrives n l a q) :
    t.walk true n l a = .ok (.absent q) ∨ ∃ c, t.walk true n l a = .ok (.found q (.file c)) := by
  induction h with
  | @last n l name hname hdead =>
      rw [walk_plain hname]
      cases hat : t.at? (l ++ [name]) with
      | none => exact Or.inl rfl
      | some e =>
          obtain ⟨c, rfl⟩ := hdead e hat
          exact Or.inr ⟨c, rfl⟩
  | here _ ih => rwa [walk_here]
  | parent _ ih => rwa [walk_parent]
  | enter hname hat _ ih => rwa [walk_plain hname, hat]
  | follow hname hat _ ih =>
      rw [walk_plain hname, hat]
      simpa using ih

/-- A way goes on behind names that lead to a directory. -/
theorem Leads.arrives (h : t.Leads n l a k d) (hb : t.Arrives k d b q) :
    t.Arrives n l (a ++ b) q := by
  induction h with
  | done => exact hb
  | here _ ih => exact .here (ih hb)
  | parent _ ih => exact .parent (ih hb)
  | enter hname hat _ ih => exact .enter hname hat (ih hb)
  | follow hname hat _ ih => exact .follow hname hat (List.append_assoc _ _ b ▸ ih hb)

theorem arrives_of_walk (h : t.walk true n l a = .ok x)
    (hx : x = .absent q ∨ ∃ c, x = .found q (.file c)) : t.Arrives n l a q := by
  have hdir : ∀ d, x ≠ .found d .directory := by
    rintro d rfl
    rcases hx with hx | ⟨c, hx⟩
    · cases hx
    · cases hx
  induction n using Nat.strongRecOn generalizing l a with
  | ind n ih =>
      rcases List.eq_nil_or_concat a with rfl | ⟨above, name, rfl⟩
      · rw [walk] at h
        exact absurd (Except.ok.inj h).symm (hdir l)
      rw [List.concat_eq_append] at h ⊢
      obtain ⟨k, d, hlead⟩ := exists_leads h (Or.inl (List.cons_ne_nil name []))
      rw [hlead.walk_append (Or.inr rfl)] at h
      refine hlead.arrives ?_
      have hname : IsPlain name := by
        refine (plain_or_directory h).resolve_right ?_
        rintro ⟨d, hx⟩
        exact hdir d hx
      rcases walk_name hname h with ⟨hat, rfl⟩ | ⟨e, hat, -, rfl⟩ | ⟨j, target, rfl, hat, hrest⟩
      · obtain rfl : d ++ [name] = q := by
          rcases hx with hx | ⟨c, hx⟩
          · exact Target.absent.inj hx
          · cases hx
        exact .last hname (deadEnd_of_none hat)
      · obtain ⟨rfl, c, rfl⟩ : d ++ [name] = q ∧ ∃ c, e = .file c := by
          rcases hx with hx | ⟨c, hx⟩
          · cases hx
          · obtain ⟨hq, he⟩ := Target.found.inj hx
            exact ⟨hq, c, he⟩
        exact .last hname (deadEnd_of_file hat)
      · refine .follow hname hat ?_
        rw [List.append_nil]
        exact ih j (Nat.lt_of_succ_le hlead.le) hrest

/-- A text that is written to a path gets to the end of its way. -/
theorem receives_iff :
    t.Receives p q ↔ checkPath p.spelling = .ok () ∧
      t.Arrives maxLinks (t.origin p.spelling) (steps p.spelling) q := by
  constructor
  · rintro (h | ⟨c, h⟩)
    · obtain ⟨hcheck, hwalk⟩ := resolve_eq_ok_iff.mp h
      exact ⟨hcheck, arrives_of_walk hwalk (Or.inl rfl)⟩
    · obtain ⟨hcheck, hwalk⟩ := resolve_eq_ok_iff.mp h
      exact ⟨hcheck, arrives_of_walk hwalk (Or.inr ⟨c, rfl⟩)⟩
  · rintro ⟨hcheck, harrive⟩
    rcases harrive.walk_eq with h | ⟨c, h⟩
    · exact Or.inl (resolve_eq_ok_iff.mpr ⟨hcheck, h⟩)
    · exact Or.inr ⟨c, resolve_eq_ok_iff.mpr ⟨hcheck, h⟩⟩

theorem Arrives.unique (h : t.Arrives n l a q) (h' : t.Arrives n l a q') : q = q' := by
  rcases h.walk_eq with h | ⟨c, h⟩
  · rcases h'.walk_eq with h' | ⟨c', h'⟩
    · exact Target.absent.inj (Except.ok.inj (h.symm.trans h'))
    · cases h.symm.trans h'
  · rcases h'.walk_eq with h' | ⟨c', h'⟩
    · cases h.symm.trans h'
    · exact (Target.found.inj (Except.ok.inj (h.symm.trans h'))).1

theorem Receives.unique (h : t.Receives p q) (h' : t.Receives p q') : q = q' :=
  (receives_iff.mp h).2.unique (receives_iff.mp h').2

/-- What the path leads to is what is there. -/
theorem Receives.lookup?_eq (h : t.Receives p q) : t.lookup? p = t.at? q := by
  rw [lookup?]
  rcases h with h | ⟨c, h⟩
  · rw [h]
    exact (holds_of_walk (resolve_eq_ok_iff.mp h).2).symm
  · rw [h]
    exact (holds_of_walk (resolve_eq_ok_iff.mp h).2).symm

/-! ## The same way in other trees -/

theorem Arrives.mono (h : t.Arrives n l a q) (hu : t.LeadsAs u) (hq : u.DeadEnd q) :
    u.Arrives n l a q := by
  induction h with
  | last hname _ => exact .last hname hq
  | here _ ih => exact .here (ih hq)
  | parent _ ih => exact .parent (ih hq)
  | enter hname hat _ ih => exact .enter hname (hu.ways _ _ (by simp) hat) (ih hq)
  | follow hname hat _ ih => exact .follow hname (hu.ways _ _ (by simp) hat) (ih hq)

theorem Arrives.deadEnd (h : t.Arrives n l a q) : t.DeadEnd q := by
  induction h with
  | last _ hdead => exact hdead
  | here _ ih => exact ih
  | parent _ ih => exact ih
  | enter _ _ _ ih => exact ih
  | follow _ _ _ ih => exact ih

theorem Receives.mono (h : t.Receives p q) (hu : t.LeadsAs u) (hq : u.DeadEnd q) :
    u.Receives p q := by
  obtain ⟨hcheck, harrive⟩ := receives_iff.mp h
  refine receives_iff.mpr ⟨hcheck, ?_⟩
  rw [hu.origin_eq]
  exact harrive.mono hu hq

/-- A tree has the directories and links that are left when something is
taken away. -/
theorem erase_leadsAs (hl : l ≠ []) : (t.erase l).LeadsAs t := by
  refine ⟨rfl, fun m e _ hat => ?_⟩
  have hne : m ≠ l := by
    rintro rfl
    rw [at?_erase_self hl] at hat
    cases hat
  rwa [at?_erase_ne hne] at hat

/-! ## Links on the way -/

theorem Arrives.more (h : t.Arrives n l a q) (hn : n ≤ n') : t.Arrives n' l a q := by
  induction h generalizing n' with
  | last hname hdead => exact .last hname hdead
  | here _ ih => exact .here (ih hn)
  | parent _ ih => exact .parent (ih hn)
  | enter hname hat _ ih => exact .enter hname hat (ih hn)
  | follow hname hat _ ih =>
      obtain ⟨m, rfl⟩ : ∃ m, n' = m + 1 := ⟨n' - 1, by omega⟩
      exact .follow hname hat (ih (Nat.le_of_succ_le_succ hn))

theorem Leads.more (h : t.Leads n l a k d) (hn : n ≤ n') : ∃ k', t.Leads n' l a k' d := by
  induction h generalizing n' with
  | done => exact ⟨n', .done⟩
  | here _ ih =>
      obtain ⟨k', hlead⟩ := ih hn
      exact ⟨k', .here hlead⟩
  | parent _ ih =>
      obtain ⟨k', hlead⟩ := ih hn
      exact ⟨k', .parent hlead⟩
  | enter hname hat _ ih =>
      obtain ⟨k', hlead⟩ := ih hn
      exact ⟨k', .enter hname hat hlead⟩
  | follow hname hat _ ih =>
      obtain ⟨m, rfl⟩ : ∃ m, n' = m + 1 := ⟨n' - 1, by omega⟩
      obtain ⟨k', hlead⟩ := ih (Nat.le_of_succ_le_succ hn)
      exact ⟨k', .follow hname hat hlead⟩

/-- The first names of a way lead to a directory. -/
theorem Arrives.exists_leads (h : t.Arrives n l (a ++ b) q) (hb : b ≠ []) :
    ∃ k d, t.Leads n l a k d := by
  rcases h.walk_eq with h | ⟨c, h⟩
  · exact FileTree.exists_leads h (Or.inl hb)
  · exact FileTree.exists_leads h (Or.inl hb)

/-- Not all of them do. -/
theorem Arrives.not_leads (h : t.Arrives n l a q) : ¬ t.Leads n l a k d := by
  intro hlead
  rcases h.walk_eq with h | ⟨c, h⟩
  · cases h.symm.trans hlead.walk_eq
  · cases h.symm.trans hlead.walk_eq

/-- A way does without a link, or it comes to it and follows it. -/
theorem Arrives.erase_or (h : t.Arrives n l a q) (hat : t.at? (d ++ [name]) = some (.link target)) :
    (t.erase (d ++ [name])).Arrives n l a q ∨
      ∃ m < n, ∃ rest, t.Arrives m (start target d) (steps target ++ rest) q := by
  have hkeep : ∀ {m : Location} {e : Entry}, t.at? m = some e → e ≠ .link target →
      (t.erase (d ++ [name])).at? m = some e := by
    rintro m e hm he
    rw [at?_erase_ne, hm]
    rintro rfl
    exact he (Option.some.inj (hm.symm.trans hat))
  induction h with
  | last hname hdead => exact Or.inl (.last hname (hdead.erase (by simp)))
  | here _ ih => exact ih.imp_left .here
  | parent _ ih => exact ih.imp_left .parent
  | enter hname hdir _ ih => exact ih.imp_left (.enter hname (hkeep hdir (by simp)))
  | @follow n l q other target' rest hname hlink hrest ih =>
      by_cases hl : l ++ [other] = d ++ [name]
      · obtain ⟨rfl, -⟩ := List.append_inj' hl rfl
        obtain rfl : target' = target := by
          rw [hl, hat] at hlink
          exact (Entry.link.inj (Option.some.inj hlink)).symm
        exact Or.inr ⟨n, Nat.lt_succ_self n, rest, hrest⟩
      · rcases ih with hdone | ⟨m, hm, more⟩
        · exact Or.inl (.follow hname ((at?_erase_ne hl).trans hlink) hdone)
        · exact Or.inr ⟨m, Nat.lt_succ_of_lt hm, more⟩

/-- Behind the last time that a way follows a link, it does without it. -/
theorem Arrives.exists_last (h : t.Arrives n (start target d) (steps target ++ rest) q)
    (hat : t.at? (d ++ [name]) = some (.link target)) :
    ∃ m ≤ n, ∃ rest,
      (t.erase (d ++ [name])).Arrives m (start target d) (steps target ++ rest) q := by
  -- the number of links that are left decreases from time to time
  induction n using Nat.strongRecOn generalizing rest with
  | ind n ih =>
      rcases h.erase_or hat with hlast | ⟨m, hm, rest', hagain⟩
      · exact ⟨n, Nat.le_refl n, rest, hlast⟩
      · obtain ⟨m', hm', hlast⟩ := ih m hm hagain
        exact ⟨m', Nat.le_trans hm' (Nat.le_of_lt hm), hlast⟩

/-- **A link does not lead through itself.** -/
theorem Arrives.behind_link (h : t.Arrives n d [name] q) (hname : IsPlain name)
    (hat : t.at? (d ++ [name]) = some (.link target)) :
    ∃ m, n = m + 1 ∧ (t.erase (d ++ [name])).Arrives m (start target d) (steps target) q := by
  cases h with
  | last _ hdead =>
      obtain ⟨c, hc⟩ := hdead _ hat
      cases hc
  | here => exact absurd rfl hname.notHere
  | parent => exact absurd rfl hname.notParent
  | enter _ hdir => cases hat.symm.trans hdir
  | @follow m _ _ _ target' _ _ hlink hrest =>
      obtain rfl : target' = target := Entry.link.inj (Option.some.inj (hlink.symm.trans hat))
      refine ⟨m, rfl, ?_⟩
      obtain ⟨m', hm', rest, hlast⟩ := hrest.exists_last hat
      by_cases hnil : rest = []
      · rw [hnil, List.append_nil] at hlast
        exact hlast.more hm'
      · -- else the link would lead to a directory
        obtain ⟨k, d', hlead⟩ := hlast.exists_leads hnil
        obtain ⟨k', hlead⟩ := (hlead.mono (erase_leadsAs (by simp))).more hm'
        rw [List.append_nil] at hrest
        exact absurd hlead hrest.not_leads

/-! ## Paths of one name -/

theorem steps_name (h : IsName name) : steps name = [name] := by
  have hlast : name.getLast? ≠ some '/' := fun hlast => h.noSlash (List.mem_of_getLast? hlast)
  have hsteps : steps name = Path.names ⟨name⟩ ++ _ := steps_eq ⟨name⟩
  rw [hsteps, Path.names_of_name h.nonempty h.noSlash, if_neg hlast, List.append_nil]

theorem origin_name (h : IsName name) (t : FileTree) : t.origin name = t.current := by
  rw [origin, if_neg fun hhead => h.noSlash (List.mem_of_head? hhead)]

theorem checkPath_name (h : IsName name) : checkPath name = .ok () :=
  checkPath_eq_ok_iff.mpr ⟨h.noNull, h.nonempty, Nat.le_trans h.short (by decide)⟩

theorem named?_name (h : IsName name) (t : FileTree) :
    t.named? ⟨name⟩ = some (t.current ++ [name]) := by
  refine named?_eq_some_iff.mpr ⟨_, resolveName_eq_ok_iff.mpr ⟨checkPath_name h, rfl, [], name,
    maxLinks, t.current, Path.names_of_name h.nonempty h.noSlash, h.plain, ?_, rfl⟩⟩
  rw [origin_name h]
  exact .done

theorem receives_name_iff (h : IsName name) :
    t.Receives ⟨name⟩ q ↔ t.Arrives maxLinks t.current [name] q := by
  rw [receives_iff, checkPath_name h, origin_name h, steps_name h]
  exact and_iff_right rfl

end FileTree

/-- The name that a temporary file has beside a file of some name. -/
def Path.temporaryName (name : Text) : Text :=
  '.' :: name ++ ".tmp".toList

theorem Path.temporary?_name {name : Text} (h : FileTree.IsName name) :
    temporary? ⟨name⟩ = some ⟨temporaryName name⟩ := by
  have hpieces : pieces ⟨name⟩ = [name] := Text.splitOn_of_not_mem h.noSlash
  have hfile : fileName? ⟨name⟩ = some name := fileName?_join (p := ⟨[]⟩) h.isPiece
  have hdirectory : directory ⟨name⟩ = ⟨[]⟩ := by
    simp [directory, hpieces, trimEnd]
  rw [temporary?, hfile, hdirectory]
  rfl

namespace FileTree

variable {t u : FileTree} {k l m : Location} {e : Entry} {c : ByteArray} {name target text : Text}

theorem lodger?_name (hname : IsName name) (htemporary : IsName (Path.temporaryName name))
    (t : FileTree) : t.lodger? ⟨name⟩ = t.at? (t.current ++ [Path.temporaryName name]) := by
  rw [lodger?, Path.temporary?_name hname, Option.bind_some, named?_name htemporary,
    Option.bind_some]

/-- The path of a name leads to a file with that name. -/
theorem lookup?_of_file (hname : IsName name) (hat : t.at? (t.current ++ [name]) = some (.file c)) :
    t.lookup? ⟨name⟩ = some (.file c) := by
  have harrive := (receives_name_iff hname).mpr (.last hname.plain (deadEnd_of_file hat))
  exact harrive.lookup?_eq.trans hat

/-- It leads to where a link with that name does, -/
theorem lookup?_of_link (hname : IsName name)
    (hat : t.at? (t.current ++ [name]) = some (.link target))
    (h : t.Arrives (maxLinks - 1) (start target t.current) (steps target) k) :
    t.lookup? ⟨name⟩ = t.at? k := by
  refine Receives.lookup?_eq ((receives_name_iff hname).mpr (.follow hname.plain hat ?_))
  rw [List.append_nil]
  exact h

/-- which is nowhere if it leads to itself. -/
theorem lookup?_of_own_link (hname : IsName name)
    (hat : t.at? (t.current ++ [name]) = some (.link name)) : t.lookup? ⟨name⟩ = none := by
  have hstart : start name t.current = t.current :=
    if_neg fun hhead => hname.noSlash (List.mem_of_head? hhead)
  have hwalk : ∀ n, t.walk true n t.current [name] = .error .tooManyLinks := by
    intro n
    induction n with
    | zero =>
        rw [walk_plain hname.plain, hat]
        rfl
    | succ n ih =>
        have hround : t.walk true n (start name t.current) (steps name ++ []) =
            .error .tooManyLinks := by
          rw [hstart, steps_name hname]
          exact ih
        rw [walk_plain hname.plain, hat]
        exact hround
  have hresolve : t.resolve ⟨name⟩ = .error .tooManyLinks := by
    rw [resolve, checkPath_name hname, origin_name hname, steps_name hname]
    exact hwalk maxLinks
  rw [lookup?, hresolve]

/-! ## Links that are moved -/

/-- What is written in place of a path does not get to the path's own entry
on its way: it gets elsewhere, and does so without that entry. -/
def WritesApart (t : FileTree) (p : Path) : Prop :=
  ∃ m temporary q, t.named? p = some m ∧ p.temporary? = some temporary ∧
    (t.erase m).Receives temporary q ∧ q ≠ m

/-- The place of a file in the current directory is not that of its temporary
file. -/
theorem temporary_ne (l : Location) (name : Text) :
    l ++ [Path.temporaryName name] ≠ l ++ [name] := by
  intro h
  have hlen := congrArg List.length (List.singleton_inj.mp (List.append_cancel_left h))
  simp only [Path.temporaryName, List.length_append, List.length_cons] at hlen
  omega

/-- Where a link leads that has the name of the temporary file, it leads
without both names. -/
theorem WritesApart.behind_link (h : t.WritesApart ⟨name⟩) (hname : IsName name)
    (htemporary : IsName (Path.temporaryName name))
    (hat : t.at? (t.current ++ [Path.temporaryName name]) = some (.link target))
    (hk : t.Receives ⟨Path.temporaryName name⟩ k) :
    k ≠ t.current ++ [name] ∧
      ((t.erase (t.current ++ [name])).erase (t.current ++ [Path.temporaryName name])).Arrives
        (maxLinks - 1) (start target t.current) (steps target) k := by
  obtain ⟨m, temporary, q, hm, ht, hq, hne⟩ := h
  obtain rfl : t.current ++ [name] = m := Option.some.inj ((named?_name hname t).symm.trans hm)
  obtain rfl : ⟨Path.temporaryName name⟩ = temporary :=
    Option.some.inj ((Path.temporary?_name hname).symm.trans ht)
  have hdead : t.DeadEnd q := hq.deadEnd.of_at?_eq (at?_erase_ne hne).symm
  obtain rfl : q = k := (hq.mono (erase_leadsAs (by simp)) hdead).unique hk
  obtain ⟨n, hn, harrive⟩ := ((receives_name_iff htemporary).mp hq).behind_link htemporary.plain
    ((at?_erase_ne (temporary_ne t.current name)).trans hat)
  obtain rfl : n = maxLinks - 1 := Nat.eq_sub_of_add_eq hn.symm
  exact ⟨hne, harrive⟩

/-- A link that has the name of the temporary file takes the place of the
file. -/
theorem at?_of_replace_name (hname : IsName name) (h : t.replace ⟨name⟩ text = (.ok (), u))
    (hlink : t.lodger? ⟨name⟩ = some (.link target)) :
    u.current = t.current ∧ u.at? (t.current ++ [name]) = some (.link target) := by
  obtain ⟨l, k, m, e, hs, hm, -, he, -, rfl⟩ := exists_of_replace_ok h
  obtain rfl : t.current ++ [name] = m := Option.some.inj ((named?_name hname t).symm.trans hm)
  rw [hs.lodger?_eq] at hlink
  rcases hs.at?_put text.encode with ⟨target', hat, hput⟩ | ⟨hno, -, -⟩
  · obtain rfl := Option.some.inj (he.symm.trans hput)
    rw [at?_put_self (by simp), ← hat, hlink]
    exact ⟨rfl, rfl⟩
  · exact absurd hlink (hno target)

/-- A file in the current directory has been replaced when it says so, if a
link that has the name of the temporary file leads elsewhere. -/
theorem lookup?_of_replace_name (hname : IsName name)
    (htemporary : IsName (Path.temporaryName name)) (h : t.replace ⟨name⟩ text = (.ok (), u))
    (hway : ∀ target, t.lodger? ⟨name⟩ = some (.link target) → t.WritesApart ⟨name⟩) :
    u.lookup? ⟨name⟩ = some (.file text.encode) := by
  obtain ⟨l, k, m, e, hs, hm, -, he, -, rfl⟩ := exists_of_replace_ok h
  obtain rfl : t.current ++ [name] = m := Option.some.inj ((named?_name hname t).symm.trans hm)
  obtain rfl : t.current ++ [Path.temporaryName name] = l := by
    have hl := hs.named
    rw [Path.temporary?_name hname, Option.bind_some, named?_name htemporary] at hl
    exact Option.some.inj hl
  have hself : ∀ e, (((t.put k (.file text.encode)).erase (t.current ++
      [Path.temporaryName name])).put (t.current ++ [name]) e).at? (t.current ++ [name]) = some e :=
    fun e => at?_put_self (by simp)
  rcases hs.at?_put text.encode with ⟨target, hat, hput⟩ | ⟨-, -, hput⟩
  · obtain rfl := Option.some.inj (he.symm.trans hput)
    obtain ⟨temporary, ht, hk⟩ := hs.received
    obtain rfl : ⟨Path.temporaryName name⟩ = temporary :=
      Option.some.inj ((Path.temporary?_name hname).symm.trans ht)
    have hapart := hway target (hs.lodger?_eq.trans hat)
    obtain ⟨hne, harrive⟩ := hapart.behind_link hname htemporary hat hk
    have hkl : k ≠ t.current ++ [Path.temporaryName name] := by
      rintro rfl
      obtain ⟨c, hc⟩ := hs.deadEnd _ hat
      cases hc
    have hfile : (((t.put k (.file text.encode)).erase (t.current ++ [Path.temporaryName name])).put
        (t.current ++ [name]) (.link target)).at? k = some (.file text.encode) := by
      rw [at?_put_ne hne, at?_erase_ne hkl, at?_put_self hs.deadEnd.ne_nil]
    rw [lookup?_of_link hname (hself _), hfile]
    exact harrive.mono (hs.deadEnd.leadsAs_move hs.ne_nil (by simp)) (deadEnd_of_file hfile)
  · obtain rfl := Option.some.inj (he.symm.trans hput)
    exact lookup?_of_file hname (hself _)

end FileTree

end HeaderCheck
