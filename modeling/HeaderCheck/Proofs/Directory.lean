/-
# The directory of a path

The directory of a path is spelled with the pieces of the path, less the last
one and what is idle in front of that: slashes, which stand for no name, and
dots, which lead nowhere.  So it is not the path without its last name, but it
leads to the same place: from the same origin, by the same names, dots at their
end apart (`Path.names_directory`).
-/
import HeaderCheck.Proofs.Ways

namespace HeaderCheck

namespace Path

variable {p : Path} {first l : Text} {rest above : List Text} {name : Text}

/-- What is trimmed off the end of some pieces is idle. -/
theorem trimEnd_append (ps : List Text) :
    ∃ idle, ps = trimEnd ps ++ idle ∧ ∀ q ∈ idle, isIdle q = true := by
  refine ⟨(ps.reverse.takeWhile isIdle).reverse, ?_, fun q hq => ?_⟩
  · rw [trimEnd, ← List.reverse_append, List.takeWhile_append_dropWhile, List.reverse_reverse]
  · exact List.mem_takeWhile_imp (List.mem_reverse.mp hq)

theorem trimEnd_concat (ps : List Text) (h : isIdle l = false) :
    trimEnd (ps ++ [l]) = ps ++ [l] := by
  simp [trimEnd, h]

/-- A path starts with a slash exactly if its first piece is empty, and not the
only one. -/
theorem head?_spelling_iff (h : p.pieces = first :: rest) :
    p.spelling.head? = some '/' ↔ first = [] ∧ rest ≠ [] := by
  have hfirst : '/' ∉ first := Text.not_mem_splitOn (h ▸ List.mem_cons_self)
  rw [← Text.intercalate_splitOn '/' p.spelling, ← pieces, h]
  cases rest with
  | nil =>
      rw [List.intercalate_singleton]
      exact iff_of_false (fun h => hfirst (List.mem_of_head? h)) fun h => h.2 rfl
  | cons q qs =>
      rw [List.intercalate_cons_cons]
      cases first with
      | nil => exact iff_of_true rfl ⟨rfl, List.cons_ne_nil q qs⟩
      | cons c cs =>
          have hc : c ≠ '/' := fun hc => hfirst (hc ▸ List.mem_cons_self)
          exact iff_of_false (fun h => hc (Option.some.inj h)) fun h => List.cons_ne_nil c cs h.1

theorem directory_of_piece (h : p.pieces = [l]) : p.directory = ⟨[]⟩ := by
  rw [directory, h]
  rfl

/-- The directory of a path with a slash in it has the pieces of the path,
without the last one and what is idle in front of that; of the root, two empty
ones are left. -/
theorem pieces_directory (h : p.pieces = first :: (rest ++ [l])) (hl : isIdle l = false) :
    (first = [] ∧ trimEnd rest = [] ∧ p.directory.pieces = [[], []]) ∨
      ((first ≠ [] ∨ trimEnd rest ≠ []) ∧ p.directory.pieces = first :: trimEnd rest) := by
  have hfree : ∀ q ∈ first :: trimEnd rest, '/' ∉ q := by
    intro q hq
    obtain ⟨idle, hrest, -⟩ := trimEnd_append rest
    refine Text.not_mem_splitOn (t := p.spelling) ?_
    rw [← pieces, h, hrest, ← List.cons_append, ← List.cons_append]
    exact List.mem_append_left _ (List.mem_append_left idle hq)
  obtain ⟨q, qs, hq⟩ : ∃ q qs, rest ++ [l] = q :: qs := List.exists_cons_of_ne_nil (by simp)
  have htrim : trimEnd (rest ++ [l]) = q :: qs := (trimEnd_concat rest hl).trans hq
  have hlast : (q :: qs).dropLast = rest := by rw [← hq, List.dropLast_concat]
  rw [directory, h]
  simp only [htrim, hlast]
  have hpieces : pieces ⟨['/'].intercalate (first :: trimEnd rest)⟩ = first :: trimEnd rest :=
    Text.splitOn_intercalate (List.cons_ne_nil _ _) hfree
  cases first with
  | nil =>
      cases hrest : trimEnd rest with
      | nil => exact Or.inl ⟨rfl, rfl, rfl⟩
      | cons r rs =>
          rw [hrest] at hpieces
          exact Or.inr ⟨Or.inr (List.cons_ne_nil r rs), hpieces⟩
  | cons c cs => exact Or.inr ⟨Or.inl (List.cons_ne_nil c cs), hpieces⟩

/-- So it has their names, and starts as the path does. -/
theorem names_directory_of_pieces (h : p.pieces = first :: (rest ++ [l]))
    (hl : isIdle l = false) :
    p.directory.names = (first :: trimEnd rest).filter (· ≠ []) ∧
      (p.directory.spelling.head? = some '/' ↔ p.spelling.head? = some '/') := by
  rw [head?_spelling_iff h]
  rcases pieces_directory h hl with ⟨hfirst, hrest, hpieces⟩ | ⟨hsome, hpieces⟩
  · rw [names, hpieces, head?_spelling_iff hpieces, hfirst, hrest]
    exact ⟨rfl, iff_of_true ⟨rfl, List.cons_ne_nil _ _⟩ ⟨rfl, by simp⟩⟩
  · rw [names, hpieces, head?_spelling_iff hpieces]
    refine ⟨rfl, and_congr_right fun hfirst => iff_of_true ?_ (by simp)⟩
    exact hsome.resolve_left fun hne => hne hfirst

theorem origin_eq_of_head {s u : Text} (h : s.head? = some '/' ↔ u.head? = some '/')
    (t : FileTree) : t.origin s = t.origin u := by
  rw [FileTree.origin, FileTree.origin]
  by_cases hu : u.head? = some '/'
  · rw [if_pos hu, if_pos (h.mpr hu)]
  · rw [if_neg hu, if_neg (mt h.mp hu)]

/-- What is idle and no empty piece is a dot. -/
theorem eq_dot_of_mem_idle {idle : List Text} (h : ∀ q ∈ idle, isIdle q = true) {d : Text}
    (hd : d ∈ idle.filter (· ≠ [])) : d = ['.'] := by
  obtain ⟨hmem, hne⟩ := List.mem_filter.mp hd
  have hidle := h d hmem
  simp only [decide_eq_true_eq] at hne
  simpa [isIdle, hne] using hidle

/-- **The directory of a path has the path's names but the last**, and dots
that come before that.  It starts from where the path does. -/
theorem names_directory (hslash : p.spelling.getLast? ≠ some '/')
    (hnames : p.names = above ++ [name]) (hname : name ≠ ['.']) :
    (∃ dots, above = p.directory.names ++ dots ∧ ∀ d ∈ dots, d = ['.']) ∧
      ∀ t : FileTree, t.origin p.directory.spelling = t.origin p.spelling := by
  obtain ⟨s⟩ := p
  rcases Text.exists_lastPiece '/' s with hno | ⟨a, l, rfl, hl⟩
  · -- a name, in the directory that paths start from
    have hpieces : pieces ⟨s⟩ = [s] := Text.splitOn_of_not_mem hno
    have habove : above = [] := by
      rw [names, hpieces] at hnames
      have hlen := congrArg List.length hnames
      have hle := List.length_filter_le (fun q : Text => decide (q ≠ [])) [s]
      rw [hlen, List.length_append, List.length_singleton] at hle
      exact List.length_eq_zero_iff.mp (by simpa using hle)
    rw [directory_of_piece hpieces]
    refine ⟨⟨[], by rw [habove]; rfl, by simp⟩, origin_eq_of_head ?_⟩
    exact iff_of_false (by simp) fun h => hno (List.mem_of_head? h)
  · have hne : l ≠ [] := by
      rintro rfl
      exact hslash List.getLast?_concat
    rw [names_of_slash, names_of_name hne hl] at hnames
    obtain ⟨rfl, hlast⟩ := List.append_inj' hnames rfl
    obtain rfl := List.singleton_inj.mp hlast
    have hidle : isIdle l = false := by simp [isIdle, hne, hname]
    obtain ⟨first, rest, ha⟩ := List.exists_cons_of_ne_nil (Text.splitOn_ne_nil '/' a)
    have hpieces : pieces ⟨a ++ '/' :: l⟩ = first :: (rest ++ [l]) := by
      rw [pieces, Text.splitOn_append, ha, Text.splitOn_of_not_mem hl]
      rfl
    obtain ⟨hdirectory, hhead⟩ := names_directory_of_pieces hpieces hidle
    obtain ⟨idle, hrest, hall⟩ := trimEnd_append rest
    refine ⟨⟨idle.filter (· ≠ []), ?_, fun d => eq_dot_of_mem_idle hall⟩, origin_eq_of_head hhead⟩
    rw [hdirectory, names, pieces, ha, ← List.filter_append, List.cons_append, ← hrest]

end Path

end HeaderCheck
