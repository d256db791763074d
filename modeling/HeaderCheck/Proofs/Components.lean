/-
# The components of a path

Paths are compared by their components, and these come in two parts: what the
path starts from, which is the root, the dot of the current directory, or
neither, and the pieces that lead somewhere, in order (`components_eq`).  The
first part tells where the way starts, and the second is the way, in the names
that are followed.

A name that is put behind a path changes neither what it starts from nor the
components that were there (`start_join`, `components_join`).
-/
import HeaderCheck.Proofs.Directory

namespace HeaderCheck

/-- What a path can end in as a name: not nothing, neither a dot nor two, and
no more than one piece.  How long it is does not matter here. -/
structure Path.IsPiece (name : Text) : Prop where
  nonempty : name ≠ []
  noSlash : '/' ∉ name
  notHere : name ≠ ['.']
  notParent : name ≠ ['.', '.']

theorem FileTree.IsName.isPiece {name : Text} (h : FileTree.IsName name) : Path.IsPiece name :=
  ⟨h.nonempty, h.noSlash, h.notHere, h.notParent⟩

/-! ## What a path starts from -/

namespace Path

variable {p f g : Path} {name : Text} {names : List Text}

/-- The component that a path starts from, if it is not just a name: the root,
or the current directory by its dot. -/
def start (p : Path) : List Component :=
  if p.spelling.head? = some '/' then [.root]
  else if p.pieces.head? = some ['.'] then [.here]
  else []

/-- The pieces of a path that lead somewhere. -/
def route (p : Path) : List Text :=
  p.names.filter (· ≠ ['.'])

theorem start_of_pieces {first : Text} {rest : List Text} (h : p.pieces = first :: rest) :
    p.start =
      if first = [] ∧ rest ≠ [] then [.root] else if first = ['.'] then [.here] else [] := by
  simp only [start, head?_spelling_iff h, h, List.head?_cons, Option.some.injEq]

theorem filter_not_isIdle (pieces : List Text) :
    pieces.filter (!isIdle ·) = (pieces.filter (· ≠ [])).filter (· ≠ ['.']) := by
  rw [List.filter_filter]
  refine List.filter_congr fun q _ => ?_
  simp [isIdle, Bool.and_comm]

theorem components_eq (p : Path) : p.components = p.start ++ p.route.map .ofPiece := by
  obtain ⟨first, rest, h⟩ := List.exists_cons_of_ne_nil (Text.splitOn_ne_nil '/' p.spelling)
  have hpieces : p.pieces = first :: rest := h
  rw [components, start_of_pieces hpieces, route, names, ← filter_not_isIdle, hpieces]
  by_cases hnil : first = []
  · subst hnil
    -- an empty piece alone is the empty path, which starts from nowhere
    cases rest with
    | nil => rfl
    | cons q qs => simp [isIdle]
  · by_cases hdot : first = ['.']
    · subst hdot
      simp [isIdle]
    · simp [hnil, hdot, isIdle]

/-- A component that is a name is a piece of the path. -/
theorem mem_route_of_mem_components (h : .name name ∈ p.components) : name ∈ p.route := by
  rw [components_eq, List.mem_append] at h
  rcases h with hstart | hroute
  · rw [start] at hstart
    split at hstart
    · simp at hstart
    · split at hstart <;> simp at hstart
  · obtain ⟨piece, hpiece, heq⟩ := List.mem_map.mp hroute
    rw [Component.ofPiece] at heq
    split at heq
    next => cases heq
    next =>
      obtain rfl := Component.name.inj heq
      exact hpiece

theorem mem_pieces_of_fileName? (h : p.fileName? = some name) : name ∈ p.pieces := by
  have hmem : Component.name name ∈ p.components := by
    rw [fileName?] at h
    split at h
    next n hlast =>
      obtain rfl := Option.some.inj h
      exact List.mem_of_getLast? hlast
    next => cases h
  have hroute := mem_route_of_mem_components hmem
  exact (List.mem_filter.mp (List.mem_filter.mp hroute).1).1

/-- Paths that start alike and go the same way mean the same. -/
theorem same_of_route_eq (hstart : f.start = g.start) (hroute : f.route = g.route) :
    f.same g = true := by
  rw [same, decide_eq_true_eq, components_eq, components_eq, hstart, hroute]

theorem head?_spelling_of_start : p.spelling.head? = some '/' ↔ p.start = [.root] := by
  rw [start]
  split
  next h => exact iff_of_true h rfl
  next h => exact iff_of_false h (by split <;> simp)

/-- Paths that start alike start at the same place. -/
theorem origin_eq_of_start (t : FileTree) (h : f.start = g.start) :
    t.origin f.spelling = t.origin g.spelling := by
  refine origin_eq_of_head ?_ t
  rw [head?_spelling_of_start, head?_spelling_of_start, h]

/-! ## Names behind a path -/

/-- What follows a slash does not change what a path starts from. -/
theorem start_slash (s u v : Text) : start ⟨s ++ '/' :: u⟩ = start ⟨s ++ '/' :: v⟩ := by
  have hne := Text.splitOn_ne_nil '/' s
  simp only [start, pieces, Text.splitOn_append, List.head?_append_of_ne_nil _ hne]
  cases s <;> rfl

theorem start_append (s u : Text) (hs : s ≠ []) : start ⟨s ++ '/' :: u⟩ = start ⟨s⟩ := by
  have hne := Text.splitOn_ne_nil '/' s
  rw [start, start, List.head?_append_of_ne_nil _ hs, pieces, pieces, Text.splitOn_append,
    List.head?_append_of_ne_nil _ hne]

theorem start_join (hname : IsPiece name) : (p.join name).start = p.start := by
  obtain ⟨spelling⟩ := p
  rcases join_cases ⟨spelling⟩ name with ⟨hnil, h⟩ | ⟨s, hs, h⟩ | ⟨hne, -, h⟩
  · obtain rfl : spelling = [] := hnil
    have hpieces : pieces ⟨name⟩ = [name] := Text.splitOn_of_not_mem hname.noSlash
    rw [h, start_of_pieces hpieces, if_neg (fun hroot => hname.nonempty hroot.1),
      if_neg hname.notHere]
    rfl
  · obtain rfl : spelling = s ++ ['/'] := hs
    rw [h]
    exact start_slash s name []
  · rw [h]
    exact start_append spelling name hne

theorem route_join (hname : IsPiece name) : (p.join name).route = p.route ++ [name] := by
  have hkeep : [name].filter (· ≠ ['.']) = [name] := by simp [hname.notHere]
  rw [route, names_join hname.nonempty hname.noSlash, List.filter_append, hkeep, route]

theorem components_join (hname : IsPiece name) :
    (p.join name).components = p.components ++ [.name name] := by
  have hpiece : Component.ofPiece name = .name name := if_neg hname.notParent
  rw [components_eq, components_eq, start_join hname, route_join hname, List.map_append,
    List.map_singleton, hpiece, List.append_assoc]

/-- A name that was put behind a path is its file name. -/
theorem fileName?_join (hname : IsPiece name) : (p.join name).fileName? = some name := by
  rw [fileName?, components_join hname, List.getLast?_concat]

theorem start_below (h : ∀ n ∈ names, FileTree.IsName n) : (p.below names).start = p.start := by
  induction names using List.reverseRecOn with
  | nil => rfl
  | append_singleton names name ih =>
      rw [below_concat, start_join (h name (by simp)).isPiece,
        ih fun n hn => h n (List.mem_append_left _ hn)]

end Path

end HeaderCheck
