/-
# Pieces of a text

A text is split at the occurrences of a character, and a piece between two of
them is a part of the text that does not hold the character.  The lines of a
text are such pieces without the carriage return that may be their last
character.

Where two texts are put together with the character between them, so are their
pieces (`splitOn_append`).  So a text may be taken apart behind the last
occurrence (`exists_lastPiece`), which leaves one piece and a shorter text, and
what is said of its pieces can be proved of the last one at a time
(`pieceInduction`).
-/
import HeaderCheck.Proofs.Slice
import HeaderCheck.Text.LineEnding

namespace HeaderCheck

namespace Text

/-! ## Between two marks -/

theorem splitOn_ne_nil (mark : Char) (t : Text) : splitOn mark t ≠ [] := by
  cases t with
  | nil => simp [splitOn]
  | cons c t =>
      rw [splitOn]
      split
      · simp
      · split <;> simp

/-- A mark between two texts parts their pieces. -/
theorem splitOn_append (mark : Char) (s t : Text) :
    splitOn mark (s ++ mark :: t) = splitOn mark s ++ splitOn mark t := by
  induction s with
  | nil => simp [splitOn]
  | cons c s ih =>
      rw [List.cons_append, splitOn, splitOn, ih]
      split
      · rfl
      · cases hs : splitOn mark s with
        | nil => exact absurd hs (splitOn_ne_nil mark s)
        | cons l ls => rfl

theorem splitOn_of_not_mem {mark : Char} {t : Text} (h : mark ∉ t) : splitOn mark t = [t] := by
  induction t with
  | nil => rfl
  | cons c t ih =>
      obtain ⟨hc, ht⟩ := not_or.mp (mt List.mem_cons.mpr h)
      rw [splitOn, if_neg (Ne.symm hc), ih ht]

/-- The pieces put together again, with the mark between them. -/
theorem intercalate_splitOn (mark : Char) (t : Text) : [mark].intercalate (splitOn mark t) = t := by
  induction t with
  | nil => rfl
  | cons c t ih =>
      rw [splitOn]
      cases hs : splitOn mark t with
      | nil => exact absurd hs (splitOn_ne_nil mark t)
      | cons p ps =>
          rw [hs] at ih
          split
          next hc =>
            rw [List.intercalate_cons_cons, ih, hc]
            rfl
          next =>
            cases ps with
            | nil =>
                rw [List.intercalate_singleton] at ih ⊢
                rw [ih]
            | cons q qs =>
                rw [List.intercalate_cons_cons] at ih ⊢
                rw [← ih]
                rfl

theorem splitOn_intercalate {mark : Char} {ps : List Text} (hne : ps ≠ [])
    (h : ∀ p ∈ ps, mark ∉ p) : splitOn mark ([mark].intercalate ps) = ps := by
  induction ps with
  | nil => exact absurd rfl hne
  | cons p ps ih =>
      have hp := h p List.mem_cons_self
      cases ps with
      | nil => rw [List.intercalate_singleton, splitOn_of_not_mem hp]
      | cons q qs =>
          have hqs := ih (List.cons_ne_nil q qs) fun k hk => h k (List.mem_cons_of_mem p hk)
          rw [List.intercalate_cons_cons, List.append_assoc, List.singleton_append, splitOn_append,
            splitOn_of_not_mem hp, hqs, List.singleton_append]

/-- A text without the mark is one piece, and any other one has a last piece. -/
theorem exists_lastPiece (mark : Char) (t : Text) :
    mark ∉ t ∨ ∃ above piece, t = above ++ mark :: piece ∧ mark ∉ piece := by
  induction t with
  | nil => exact Or.inl List.not_mem_nil
  | cons c t ih =>
      rcases ih with hno | ⟨above, piece, rfl, hpiece⟩
      · by_cases hc : c = mark
        · exact Or.inr ⟨[], t, by rw [hc, List.nil_append], hno⟩
        · exact Or.inl (by simpa [Ne.symm hc] using hno)
      · exact Or.inr ⟨c :: above, piece, rfl, hpiece⟩

/-- What holds of a text in one piece, and of a text with one more piece behind
it, holds of every text. -/
@[elab_as_elim]
theorem pieceInduction (mark : Char) {P : Text → Prop} (one : ∀ p, mark ∉ p → P p)
    (more : ∀ above p, mark ∉ p → P above → P (above ++ mark :: p)) (t : Text) : P t := by
  induction hlen : t.length using Nat.strongRecOn generalizing t with
  | ind n ih =>
      rcases exists_lastPiece mark t with hno | ⟨above, p, rfl, hp⟩
      · exact one t hno
      · have hshort : above.length < n := by
          rw [← hlen]
          simp
        exact more above p hp (ih above.length hshort above rfl)

theorem not_mem_splitOn {mark : Char} {t p : Text} (h : p ∈ splitOn mark t) : mark ∉ p := by
  induction t using pieceInduction mark with
  | one l hl =>
      rw [splitOn_of_not_mem hl] at h
      exact List.mem_singleton.mp h ▸ hl
  | more above l hl ih =>
      rw [splitOn_append, splitOn_of_not_mem hl] at h
      rcases List.mem_append.mp h with h | h
      · exact ih h
      · exact List.mem_singleton.mp h ▸ hl

/-- A piece is followed by the mark, or by nothing. -/
theorem followed_of_mem_splitOn {mark : Char} {t p : Text} (h : p ∈ splitOn mark t) :
    p ++ [mark] <:+: t ∨ p <:+ t := by
  induction t using pieceInduction mark with
  | one l hl =>
      rw [splitOn_of_not_mem hl] at h
      rw [List.mem_singleton.mp h]
      exact Or.inr List.suffix_rfl
  | more above l hl ih =>
      have hmark : above ++ [mark] <:+: above ++ mark :: l := ⟨[], l, by simp⟩
      rw [splitOn_append, splitOn_of_not_mem hl] at h
      rcases List.mem_append.mp h with h | h
      · rcases ih h with hin | ⟨front, rfl⟩
        · exact Or.inl (hin.trans ⟨[], mark :: l, by simp⟩)
        · exact Or.inl (List.IsInfix.trans ⟨front, [], by simp⟩ hmark)
      · rw [List.mem_singleton.mp h]
        exact Or.inr ⟨above ++ [mark], by simp⟩

theorem infix_of_mem_splitOn {mark : Char} {t p : Text} (h : p ∈ splitOn mark t) : p <:+: t := by
  rcases followed_of_mem_splitOn h with hin | hend
  · exact (List.prefix_append p [mark]).isInfix.trans hin
  · exact hend.isInfix

/-! ## Lines -/

theorem not_mem_lines {t l : Text} (h : l ∈ t.lines) : '\n' ∉ l := by
  obtain ⟨p, hp, rfl⟩ := List.mem_map.mp h
  exact fun hc => not_mem_splitOn hp ((prefix_before?_getD p ['\r']).subset hc)

theorem infix_of_mem_lines {t l : Text} (h : l ∈ t.lines) : l <:+: t := by
  obtain ⟨p, hp, rfl⟩ := List.mem_map.mp h
  exact (prefix_before?_getD p ['\r']).isInfix.trans (infix_of_mem_splitOn hp)

theorem lines_append (s t : Text) : lines (s ++ '\n' :: t) = lines s ++ lines t := by
  rw [lines, splitOn_append, List.map_append, lines, lines]

theorem lines_of_not_mem {t : Text} (h : '\n' ∉ t) : lines t = [(t.before? ['\r']).getD t] := by
  rw [lines, splitOn_of_not_mem h, List.map_singleton]

/-- A text of one line is that line, unless it ends in a carriage return. -/
theorem lines_eq_singleton {t : Text} (hfeed : '\n' ∉ t) (hreturn : t.getLast? ≠ some '\r') :
    lines t = [t] := by
  have hkeep : ¬ ['\r'] <:+ t := by
    rintro ⟨s, rfl⟩
    exact hreturn List.getLast?_concat
  rw [lines_of_not_mem hfeed, before?_getD_of_not_suffix hkeep]

/-- The carriage return at the end of a line does not count. -/
theorem lines_concat_return {t : Text} (h : t.getLast? ≠ some '\r') :
    lines (t ++ ['\r']) = lines t := by
  have hone : ∀ l : Text, l.getLast? ≠ some '\r' → '\n' ∉ l → lines (l ++ ['\r']) = lines l := by
    intro l hlast hno
    rw [lines_of_not_mem (by simpa using hno), lines_eq_singleton hno hlast, before?_append,
      Option.getD_some]
  rcases exists_lastPiece '\n' t with hno | ⟨above, line, rfl, hline⟩
  · exact hone t h hno
  · have hlast : line.getLast? ≠ some '\r' := by
      intro hl
      have hne : line ≠ [] := by
        rintro rfl
        cases hl
      rw [List.getLast?_append_of_ne_nil _ (List.cons_ne_nil _ _),
        List.getLast?_cons_of_ne_nil hne] at h
      exact h hl
    rw [List.append_assoc, List.cons_append, lines_append, lines_append, hone line hlast hline]

end Text

end HeaderCheck
