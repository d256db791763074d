/-
# Ways through a file tree

A path is a list of names, and following it is a walk from directory to
directory.  Three things are known of a walk: what it ends at is what the
tree has there (`Target.Holds`); a walk along more names goes on from where
the walk along the first of them ends, with the links that are left
(`walk_append`); and a walk that ends at a directory meets directories and
links only, so that every tree with the same directories and links has the
same walk, whatever its files are (`Leads.mono`).

The number of links that a walk may still follow is not told by where it
ends, which is why the second statement has to speak of all names that may
come after.
-/
import HeaderCheck.FileTree.Access
import HeaderCheck.Proofs.Conversion
import Mathlib.Data.List.Nodup

namespace HeaderCheck

namespace FileTree

/-! ## Well-formed trees -/

/-- What an entry of a directory can be called. -/
structure IsName (name : Text) : Prop where
  nonempty : name ≠ []
  noSlash : '/' ∉ name
  noNull : '\x00' ∉ name
  notHere : name ≠ ['.']
  notParent : name ≠ ['.', '.']
  short : Text.width name ≤ maxNameWidth

instance (name : Text) : Decidable (IsName name) :=
  decidable_of_iff (name ≠ [] ∧ '/' ∉ name ∧ '\x00' ∉ name ∧ name ≠ ['.'] ∧ name ≠ ['.', '.'] ∧
      Text.width name ≤ maxNameWidth)
    ⟨fun ⟨h₁, h₂, h₃, h₄, h₅, h₆⟩ => ⟨h₁, h₂, h₃, h₄, h₅, h₆⟩,
      fun ⟨h₁, h₂, h₃, h₄, h₅, h₆⟩ => ⟨h₁, h₂, h₃, h₄, h₅, h₆⟩⟩

/-- A tree that there can be: each place is told once, its name is one, and
the place above it is a directory; and the current place is one. -/
structure WellFormed (t : FileTree) : Prop where
  once : (t.entries.map (·.1)).Nodup
  named : ∀ e ∈ t.entries, ∀ name ∈ e.1, IsName name
  below : ∀ e ∈ t.entries, e.1 ≠ [] ∧ t.at? e.1.dropLast = some .directory
  current : t.at? t.current = some .directory

instance (t : FileTree) : Decidable t.WellFormed :=
  decidable_of_iff ((t.entries.map (·.1)).Nodup ∧ (∀ e ∈ t.entries, ∀ name ∈ e.1, IsName name) ∧
      (∀ e ∈ t.entries, e.1 ≠ [] ∧ t.at? e.1.dropLast = some .directory) ∧
      t.at? t.current = some .directory)
    ⟨fun ⟨h₁, h₂, h₃, h₄⟩ => ⟨h₁, h₂, h₃, h₄⟩, fun ⟨h₁, h₂, h₃, h₄⟩ => ⟨h₁, h₂, h₃, h₄⟩⟩

variable {t u : FileTree} {l m d : Location} {e : Entry}

theorem at?_eq_of_ne_nil (h : l ≠ []) :
    t.at? l = (t.entries.find? (·.1 = l)).map (·.2) := by
  rw [at?, if_neg h]

/-- What is at a place below the root is what is told of it. -/
theorem mem_entries_of_at? (hl : l ≠ []) (h : t.at? l = some e) : (l, e) ∈ t.entries := by
  rw [at?_eq_of_ne_nil hl] at h
  obtain ⟨⟨k, f⟩, hfind, rfl⟩ := Option.map_eq_some_iff.mp h
  obtain rfl : k = l := by simpa using List.find?_some hfind
  exact List.mem_of_find?_eq_some hfind

theorem WellFormed.at?_eq_some_iff (hw : t.WellFormed) (hl : l ≠ []) :
    t.at? l = some e ↔ (l, e) ∈ t.entries := by
  refine ⟨mem_entries_of_at? hl, fun hmem => ?_⟩
  have hsome : (t.entries.find? (·.1 = l)).isSome = true := by
    rw [List.find?_isSome]
    exact ⟨(l, e), hmem, by simp⟩
  obtain ⟨⟨k, f⟩, hfind⟩ := Option.isSome_iff_exists.mp hsome
  obtain rfl : k = l := by simpa using List.find?_some hfind
  have hf : (k, f) = (k, e) :=
    List.inj_on_of_nodup_map hw.once (List.mem_of_find?_eq_some hfind) hmem rfl
  rw [at?_eq_of_ne_nil hl, hfind, Option.map_some, (Prod.mk.inj hf).2]

/-- The children of a place are what is one name below it. -/
theorem WellFormed.mem_children_iff (hw : t.WellFormed) {name : Text} :
    (name, e) ∈ t.children l ↔ t.at? (l ++ [name]) = some e := by
  rw [hw.at?_eq_some_iff (by simp), children, List.mem_filterMap]
  constructor
  · rintro ⟨⟨k, f⟩, hmem, h⟩
    simp only at h
    split at h
    next last _ =>
      split at h
      next hk =>
        obtain ⟨rfl, rfl⟩ := Prod.mk.inj (Option.some.inj h)
        rw [← hk]
        exact hmem
      next => cases h
    next => cases h
  · intro hmem
    refine ⟨(l ++ [name], e), hmem, ?_⟩
    simp

/-! ## Walks -/

/-- A name that leads on from a place: neither a dot nor two, and not too
long. -/
structure IsPlain (name : Text) : Prop where
  notHere : name ≠ ['.']
  notParent : name ≠ ['.', '.']
  short : Text.width name ≤ maxNameWidth

theorem IsName.plain {name : Text} (h : IsName name) : IsPlain name :=
  ⟨h.notHere, h.notParent, h.short⟩

/-- Where a link leads from. -/
def start (target : Text) (l : Location) : Location :=
  if target.head? = some '/' then [] else l

/-- Names lead from one directory to another, with some of the links that
may be followed left over. -/
inductive Leads (t : FileTree) : Nat → Location → List Text → Nat → Location → Prop
  | done {n : Nat} {l : Location} : Leads t n l [] n l
  | here {n k : Nat} {l d : Location} {rest : List Text} :
      Leads t n l rest k d → Leads t n l (['.'] :: rest) k d
  | parent {n k : Nat} {l d : Location} {rest : List Text} :
      Leads t n l.dropLast rest k d → Leads t n l (['.', '.'] :: rest) k d
  | enter {n k : Nat} {l d : Location} {name : Text} {rest : List Text} :
      IsPlain name → t.at? (l ++ [name]) = some .directory →
      Leads t n (l ++ [name]) rest k d → Leads t n l (name :: rest) k d
  | follow {n k : Nat} {l d : Location} {name target : Text} {rest : List Text} :
      IsPlain name → t.at? (l ++ [name]) = some (.link target) →
      Leads t n (start target l) (steps target ++ rest) k d → Leads t (n + 1) l (name :: rest) k d

variable {follow : Bool} {n k : Nat} {name : Text} {a b rest : List Text} {x : Target}

/-! ### One step of a walk -/

theorem walk_here : t.walk follow n l (['.'] :: rest) = t.walk follow n l rest := by
  rw [walk, if_pos rfl]

theorem walk_parent :
    t.walk follow n l (['.', '.'] :: rest) = t.walk follow n l.dropLast rest := by
  rw [walk, if_neg (by decide), if_pos rfl]

theorem walk_plain (h : IsPlain name) :
    t.walk follow n l (name :: rest) =
      match t.at? (l ++ [name]) with
      | none => if rest = [] then .ok (.absent (l ++ [name])) else .error .notFound
      | some .directory => t.walk follow n (l ++ [name]) rest
      | some (.file content) =>
          if rest = [] then .ok (.found (l ++ [name]) (.file content))
          else .error .notDirectory
      | some (.link target) =>
          if rest = [] && !follow then .ok (.found (l ++ [name]) (.link target))
          else
            match n with
            | 0 => .error .tooManyLinks
            | n + 1 => t.walk follow n (start target l) (steps target ++ rest) := by
  rw [walk, if_neg h.notHere, if_neg h.notParent, if_neg (Nat.not_lt.mpr h.short)]
  rfl

/-- A link is followed where more names are to come. -/
theorem follows (hb : b ≠ [] ∨ follow = true) : ¬ (decide (rest ++ b = []) && !follow) = true := by
  rcases hb with hb | rfl
  · simp [hb]
  · simp

/-- A walk goes on from where its first names lead, with the links that are
left. -/
theorem Leads.walk_append (h : t.Leads n l a k d) (hb : b ≠ [] ∨ follow = true) :
    t.walk follow n l (a ++ b) = t.walk follow k d b := by
  induction h with
  | done => rfl
  | here _ ih => rw [List.cons_append, walk_here, ih]
  | parent _ ih => rw [List.cons_append, walk_parent, ih]
  | enter hname hat _ ih => rw [List.cons_append, walk_plain hname, hat, ih]
  | follow hname hat _ ih =>
      rw [List.append_assoc] at ih
      rw [List.cons_append, walk_plain hname, hat]
      simp only [if_neg (follows hb)]
      exact ih

theorem Leads.walk_eq (h : t.Leads n l a k d) :
    t.walk true n l a = .ok (.found d .directory) := by
  have hwalk := h.walk_append (b := []) (Or.inr rfl)
  rw [List.append_nil] at hwalk
  rw [hwalk, walk]

/-- No walk ends at an entry other than a directory with names to come. -/
theorem not_ends {y : Target} {fault : Fault} (hy : ∀ d, y ≠ .found d .directory)
    (hb : b ≠ [] ∨ (follow = true ∧ ∃ d, x = .found d .directory))
    (h : (if rest ++ b = [] then Except.ok y else .error fault) = .ok x) : False := by
  split at h
  next hnil =>
    rcases hb with hb | ⟨-, d, hx⟩
    · exact hb (List.append_eq_nil_iff.mp hnil).2
    · exact hy d ((Except.ok.inj h).trans hx)
  next => cases h

/-- Wherever a walk goes on from or ends at a directory, its names so far
lead there. -/
theorem exists_leads (h : t.walk follow n l (a ++ b) = .ok x)
    (hb : b ≠ [] ∨ (follow = true ∧ ∃ d, x = .found d .directory)) : ∃ k d, t.Leads n l a k d := by
  -- the recursion is that of a walk that follows all links, since more names are to come
  induction n, l, a using walk.induct t true with
  | case1 n l => exact ⟨n, l, .done⟩
  | case2 n l rest ih =>
      rw [List.cons_append, walk_here] at h
      obtain ⟨k, d, hlead⟩ := ih h
      exact ⟨k, d, .here hlead⟩
  | case3 n l rest _ ih =>
      rw [List.cons_append, walk_parent] at h
      obtain ⟨k, d, hlead⟩ := ih h
      exact ⟨k, d, .parent hlead⟩
  | case4 n l name rest hhere hparent hlong =>
      rw [List.cons_append, walk, if_neg hhere, if_neg hparent, if_pos hlong] at h
      cases h
  | case5 n l name hhere hparent hshort hat =>
      rw [List.cons_append, walk_plain ⟨hhere, hparent, Nat.not_lt.mp hshort⟩, hat] at h
      exact (not_ends (by simp) hb h).elim
  | case6 n l name rest hhere hparent hshort hat _ =>
      rw [List.cons_append, walk_plain ⟨hhere, hparent, Nat.not_lt.mp hshort⟩, hat] at h
      exact (not_ends (by simp) hb h).elim
  | case7 n l name rest hhere hparent hshort hat ih =>
      have hname : IsPlain name := ⟨hhere, hparent, Nat.not_lt.mp hshort⟩
      rw [List.cons_append, walk_plain hname, hat] at h
      obtain ⟨k, d, hlead⟩ := ih h
      exact ⟨k, d, .enter hname hat hlead⟩
  | case8 n l name hhere hparent hshort content hat =>
      rw [List.cons_append, walk_plain ⟨hhere, hparent, Nat.not_lt.mp hshort⟩, hat] at h
      exact (not_ends (by simp) hb h).elim
  | case9 n l name rest hhere hparent hshort content hat _ =>
      rw [List.cons_append, walk_plain ⟨hhere, hparent, Nat.not_lt.mp hshort⟩, hat] at h
      exact (not_ends (by simp) hb h).elim
  | case10 n l name rest _ _ _ target _ hstop => simp at hstop
  | case11 l name rest hhere hparent hshort target hat _ =>
      rw [List.cons_append, walk_plain ⟨hhere, hparent, Nat.not_lt.mp hshort⟩, hat] at h
      simp only [if_neg (follows (hb.imp_right And.left))] at h
      cases h
  | case12 l name rest hhere hparent hshort target hat _ n ih =>
      have hname : IsPlain name := ⟨hhere, hparent, Nat.not_lt.mp hshort⟩
      rw [List.cons_append, walk_plain hname, hat] at h
      simp only [if_neg (follows (hb.imp_right And.left))] at h
      rw [← List.append_assoc] at h
      obtain ⟨k, d, hlead⟩ := ih h
      exact ⟨k, d, .follow hname hat hlead⟩

theorem walk_eq_directory_iff :
    t.walk true n l a = .ok (.found d .directory) ↔ ∃ k, t.Leads n l a k d := by
  constructor
  · intro h
    rw [← List.append_nil a] at h
    obtain ⟨k, d', hlead⟩ := exists_leads h (Or.inr ⟨rfl, d, rfl⟩)
    rw [List.append_nil, hlead.walk_eq] at h
    obtain ⟨rfl, -⟩ := Target.found.inj (Except.ok.inj h)
    exact ⟨k, hlead⟩
  · rintro ⟨k, hlead⟩
    exact hlead.walk_eq

/-- Following names uses up links. -/
theorem Leads.le (h : t.Leads n l a k d) : k ≤ n := by
  induction h with
  | done => exact Nat.le_refl _
  | here _ ih => exact ih
  | parent _ ih => exact ih
  | enter _ _ _ ih => exact ih
  | follow _ _ _ ih => exact Nat.le_succ_of_le ih

/-! ### The last name -/

/-- Where a walk ends that follows one name from a directory: at what the
name is there, or where a link leads. -/
theorem walk_name (hname : IsPlain name) (h : t.walk true n d [name] = .ok x) :
    (t.at? (d ++ [name]) = none ∧ x = .absent (d ++ [name])) ∨
      (∃ e, t.at? (d ++ [name]) = some e ∧ (∀ target, e ≠ .link target) ∧
        x = .found (d ++ [name]) e) ∨
      ∃ k target, n = k + 1 ∧ t.at? (d ++ [name]) = some (.link target) ∧
        t.walk true k (start target d) (steps target) = .ok x := by
  rw [walk_plain hname] at h
  cases hat : t.at? (d ++ [name]) with
  | none =>
      rw [hat] at h
      exact Or.inl ⟨rfl, (Except.ok.inj h).symm⟩
  | some e =>
      rw [hat] at h
      cases e with
      | directory =>
          simp only [walk] at h
          exact Or.inr (Or.inl ⟨_, rfl, by simp, (Except.ok.inj h).symm⟩)
      | file content => exact Or.inr (Or.inl ⟨_, rfl, by simp, (Except.ok.inj h).symm⟩)
      | link target =>
          cases n with
          | zero => simp at h
          | succ k =>
              simp only [List.append_nil] at h
              exact Or.inr (Or.inr ⟨k, target, rfl, rfl, by simpa using h⟩)

/-- A last name that does not lead on is a dot or two, and ends at a
directory. -/
theorem plain_or_directory (h : t.walk true n d [name] = .ok x) :
    IsPlain name ∨ ∃ l, x = .found l .directory := by
  by_cases hhere : name = ['.']
  · subst hhere
    rw [walk_here, walk] at h
    exact Or.inr ⟨d, (Except.ok.inj h).symm⟩
  by_cases hparent : name = ['.', '.']
  · subst hparent
    rw [walk_parent, walk] at h
    exact Or.inr ⟨d.dropLast, (Except.ok.inj h).symm⟩
  by_cases hlong : maxNameWidth < Text.width name
  · rw [walk, if_neg hhere, if_neg hparent, if_pos hlong] at h
    cases h
  · exact Or.inl ⟨hhere, hparent, Nat.not_lt.mp hlong⟩

/-- What a target says is so in a tree: the entry is there, or none is. -/
def Target.Holds (t : FileTree) : Target → Prop
  | .absent l => t.at? l = none
  | .found l (.file c) => t.at? l = some (.file c)
  | .found _ .directory => True
  | .found _ (.link _) => False

/-- A walk that follows every link ends at what is there, and at no link. -/
theorem holds_of_walk (h : t.walk true n l a = .ok x) : x.Holds t := by
  induction n using Nat.strongRecOn generalizing l a with
  | ind n ih =>
      rcases List.eq_nil_or_concat a with rfl | ⟨above, name, rfl⟩
      · rw [walk] at h
        obtain rfl := Except.ok.inj h
        trivial
      · rw [List.concat_eq_append] at h
        obtain ⟨k, d, hlead⟩ := exists_leads h (Or.inl (List.cons_ne_nil name []))
        rw [hlead.walk_append (Or.inr rfl)] at h
        rcases plain_or_directory h with hname | ⟨_, rfl⟩
        · rcases walk_name hname h with
            ⟨hat, rfl⟩ | ⟨e, hat, hlink, rfl⟩ | ⟨j, target, rfl, -, hrest⟩
          · exact hat
          · cases e with
            | directory => trivial
            | file content => exact hat
            | link target => exact hlink target rfl
          · exact ih j (Nat.lt_of_succ_le hlead.le) hrest
        · trivial

/-! ### Trees with the same directories and links -/

/-- Every directory and every link of one tree is in another one, which
starts at the same place. -/
structure LeadsAs (t u : FileTree) : Prop where
  current : u.current = t.current
  ways : ∀ l e, (∀ c, e ≠ .file c) → t.at? l = some e → u.at? l = some e

theorem Leads.mono (h : t.Leads n l a k d) (hu : t.LeadsAs u) : u.Leads n l a k d := by
  induction h with
  | done => exact .done
  | here _ ih => exact .here ih
  | parent _ ih => exact .parent ih
  | enter hname hat _ ih => exact .enter hname (hu.ways _ _ (by simp) hat) ih
  | follow hname hat _ ih => exact .follow hname (hu.ways _ _ (by simp) hat) ih

end FileTree

/-! ## Paths as names -/

/-- The names that a path is made of. -/
def Path.names (p : Path) : List Text :=
  p.pieces.filter (· ≠ [])

/-- A path goes on below itself. -/
def Path.below (p : Path) (names : List Text) : Path :=
  names.foldl Path.join p

namespace Path

variable {p : Path} {name : Text}

theorem names_of_slash (s u : Text) :
    names ⟨s ++ '/' :: u⟩ = names ⟨s⟩ ++ names ⟨u⟩ := by
  rw [names, pieces, Text.splitOn_append, List.filter_append]
  rfl

theorem names_of_name (hne : name ≠ []) (hs : '/' ∉ name) : names ⟨name⟩ = [name] := by
  rw [names, pieces, Text.splitOn_of_not_mem hs]
  simp [hne]

theorem names_nil : names ⟨[]⟩ = [] := rfl

/-- The ways to spell what a name is put behind. -/
theorem join_cases (p : Path) (name : Text) :
    (p.spelling = [] ∧ p.join name = ⟨name⟩) ∨
      (∃ s, p.spelling = s ++ ['/'] ∧ p.join name = ⟨s ++ '/' :: name⟩) ∨
      (p.spelling ≠ [] ∧ p.spelling.getLast? ≠ some '/' ∧
        p.join name = ⟨p.spelling ++ '/' :: name⟩) := by
  by_cases hnil : p.spelling = []
  · exact Or.inl ⟨hnil, by rw [join, if_pos hnil]⟩
  by_cases hslash : p.spelling.getLast? = some '/'
  · obtain ⟨s, hs⟩ := List.getLast?_eq_some_iff.mp hslash
    refine Or.inr (Or.inl ⟨s, hs, ?_⟩)
    rw [join, if_neg hnil, if_pos hslash, hs, List.append_assoc]
    rfl
  · exact Or.inr (Or.inr ⟨hnil, hslash, by rw [join, if_neg hnil, if_neg hslash]⟩)

theorem names_join (hne : name ≠ []) (hs : '/' ∉ name) :
    (p.join name).names = p.names ++ [name] := by
  rcases join_cases p name with ⟨hnil, h⟩ | ⟨s, hs', h⟩ | ⟨-, -, h⟩
  · obtain ⟨spelling⟩ := p
    obtain rfl : spelling = [] := hnil
    rw [h, names_of_name hne hs, names_nil, List.nil_append]
  · obtain ⟨spelling⟩ := p
    obtain rfl : spelling = s ++ ['/'] := hs'
    rw [h, names_of_slash, names_of_slash, names_of_name hne hs, names_nil, List.append_nil]
  · rw [h, names_of_slash, names_of_name hne hs]

/-- A path that a name was put behind ends as the name does. -/
theorem getLast?_join (hne : name ≠ []) :
    (p.join name).spelling.getLast? = name.getLast? := by
  rcases join_cases p name with ⟨-, h⟩ | ⟨s, -, h⟩ | ⟨-, -, h⟩
  · rw [h]
  · rw [h, List.getLast?_append_of_ne_nil _ (List.cons_ne_nil _ _),
      List.getLast?_cons_of_ne_nil hne]
  · rw [h, List.getLast?_append_of_ne_nil _ (List.cons_ne_nil _ _),
      List.getLast?_cons_of_ne_nil hne]

/-- It starts from where the path started. -/
theorem origin_join (t : FileTree) (hs : '/' ∉ name) :
    t.origin (p.join name).spelling = t.origin p.spelling := by
  have hname : name.head? ≠ some '/' := fun h => hs (List.mem_of_mem_head? h)
  rcases join_cases p name with ⟨hnil, h⟩ | ⟨s, hs', h⟩ | ⟨hne, -, h⟩
  · rw [h, hnil, FileTree.origin, FileTree.origin, if_neg hname]
    rfl
  · rw [h, hs', FileTree.origin, FileTree.origin]
    cases s <;> rfl
  · rw [h, FileTree.origin, FileTree.origin]
    obtain ⟨c, s, hc⟩ := List.exists_cons_of_ne_nil hne
    rw [hc]
    rfl

/-- Its characters are those of both, and the slash between them. -/
theorem mem_join {c : Char} (h : c ∈ (p.join name).spelling) :
    c ∈ p.spelling ∨ c = '/' ∨ c ∈ name := by
  rcases join_cases p name with ⟨-, hj⟩ | ⟨s, hs, hj⟩ | ⟨-, -, hj⟩
  · rw [hj] at h
    exact Or.inr (Or.inr h)
  · rw [hj] at h
    rw [hs]
    simpa [or_assoc] using h
  · rw [hj] at h
    simpa using h

theorem width_join (p : Path) (name : Text) :
    p.spelling.width + Text.width name ≤ (p.join name).spelling.width := by
  rcases join_cases p name with ⟨hnil, hj⟩ | ⟨s, hs, hj⟩ | ⟨-, -, hj⟩
  · rw [hj, hnil, Text.width_nil, Nat.zero_add]
  · rw [hj, hs]
    simp [Nat.add_assoc]
  · rw [hj, Text.width_append, Text.width_cons]
    omega

/-! ### Paths below a path -/

variable {names : List Text}

theorem below_concat (p : Path) (names : List Text) (name : Text) :
    p.below (names ++ [name]) = (p.below names).join name := by
  rw [below, List.foldl_append]
  rfl

theorem names_below (h : ∀ n ∈ names, n ≠ [] ∧ '/' ∉ n) :
    (p.below names).names = p.names ++ names := by
  induction names using List.reverseRecOn with
  | nil => rw [below, List.foldl_nil, List.append_nil]
  | append_singleton names name ih =>
      obtain ⟨hne, hs⟩ := h name (by simp)
      rw [below_concat, names_join hne hs, ih fun n hn => h n (List.mem_append_left _ hn),
        List.append_assoc]

theorem origin_below (t : FileTree) (h : ∀ n ∈ names, '/' ∉ n) :
    t.origin (p.below names).spelling = t.origin p.spelling := by
  induction names using List.reverseRecOn with
  | nil => rfl
  | append_singleton names name ih =>
      rw [below_concat, origin_join t (h name (by simp)),
        ih fun n hn => h n (List.mem_append_left _ hn)]

theorem mem_below {c : Char} (h : c ∈ (p.below names).spelling) :
    c ∈ p.spelling ∨ c = '/' ∨ ∃ n ∈ names, c ∈ n := by
  induction names using List.reverseRecOn with
  | nil => exact Or.inl h
  | append_singleton names name ih =>
      rw [below_concat] at h
      rcases mem_join h with hp | hs | hn
      · rcases ih hp with hp | hs | ⟨n, hn, hc⟩
        · exact Or.inl hp
        · exact Or.inr (Or.inl hs)
        · exact Or.inr (Or.inr ⟨n, List.mem_append_left _ hn, hc⟩)
      · exact Or.inr (Or.inl hs)
      · exact Or.inr (Or.inr ⟨name, by simp, hn⟩)

/-- Each name makes a path longer. -/
theorem width_below (h : ∀ n ∈ names, n ≠ []) :
    p.spelling.width + names.length ≤ (p.below names).spelling.width := by
  induction names using List.reverseRecOn with
  | nil => exact Nat.le_refl _
  | append_singleton names name ih =>
      have hwidth := mt Text.width_eq_zero_iff.mp (h name (by simp))
      have hbelow := ih fun n hn => h n (List.mem_append_left _ hn)
      have hjoin := width_join (p.below names) name
      rw [below_concat, List.length_append, List.length_singleton]
      omega

end Path

namespace FileTree

variable {t u : FileTree} {p : Path} {l m d : Location} {x : Target} {name : Text} {slash : Bool}

theorem steps_eq (p : Path) :
    steps p.spelling = p.names ++ (if p.spelling.getLast? = some '/' then [['.']] else []) := rfl

theorem checkPath_eq_ok_iff {path : Text} :
    checkPath path = .ok () ↔ '\x00' ∉ path ∧ path ≠ [] ∧ path.width ≤ maxPathWidth := by
  constructor
  · intro h
    rw [checkPath] at h
    split at h
    next => cases h
    next hnull =>
      split at h
      next => cases h
      next hne =>
        split at h
        next => cases h
        next hshort => exact ⟨by simpa using hnull, hne, Nat.not_lt.mp hshort⟩
  · rintro ⟨hnull, hne, hshort⟩
    rw [checkPath, if_neg (by simpa using hnull), if_neg hne, if_neg (Nat.not_lt.mpr hshort)]

theorem resolve_eq_ok_iff :
    t.resolve p = .ok x ↔ checkPath p.spelling = .ok () ∧
      t.walk true maxLinks (t.origin p.spelling) (steps p.spelling) = .ok x := by
  rw [resolve]
  cases checkPath p.spelling with
  | error fault => simp [bind, Except.bind]
  | ok _ => simp [bind, Except.bind]

/-- A path names an entry of the directory that its other names lead to. -/
theorem resolveName_eq_ok_iff :
    t.resolveName p = .ok (m, slash) ↔ checkPath p.spelling = .ok () ∧
      slash = decide (p.spelling.getLast? = some '/') ∧
      ∃ above name k d, p.names = above ++ [name] ∧ IsPlain name ∧
        t.Leads maxLinks (t.origin p.spelling) above k d ∧ m = d ++ [name] := by
  have hnames : p.names = (p.spelling.splitOn '/').filter (· ≠ []) := rfl
  rw [resolveName, ← hnames]
  cases checkPath p.spelling with
  | error fault => simp [bind, Except.bind]
  | ok _ =>
      simp only [bind, Except.bind, true_and]
      constructor
      · intro h
        split at h
        next => cases h
        next x hwalk =>
          split at h
          next => cases h
          next => cases h
          next => cases h
          next d =>
            split at h
            next => cases h
            next name hlast =>
              split at h
              next => cases h
              next hdots =>
                split at h
                next => cases h
                next hshort =>
                  obtain ⟨rfl, rfl⟩ := Prod.mk.inj (Except.ok.inj h)
                  obtain ⟨k, hlead⟩ := walk_eq_directory_iff.mp hwalk
                  obtain ⟨above, habove⟩ := List.getLast?_eq_some_iff.mp hlast
                  rw [habove, List.dropLast_concat] at hlead
                  simp only [Bool.or_eq_true, decide_eq_true_eq, not_or] at hdots
                  exact ⟨rfl, above, name, k, d, habove,
                    ⟨hdots.1, hdots.2, Nat.not_lt.mp hshort⟩, hlead, rfl⟩
      · rintro ⟨rfl, above, name, k, d, habove, hname, hlead, rfl⟩
        have hdots : ¬ (decide (name = ['.']) || decide (name = ['.', '.'])) = true := by
          simp [hname.notHere, hname.notParent]
        rw [habove, List.dropLast_concat, hlead.walk_eq]
        simp only [List.getLast?_concat, if_neg hdots, if_neg (Nat.not_lt.mpr hname.short)]
        rfl

end FileTree

end HeaderCheck
