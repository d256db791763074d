/-
# What becomes of a template

The lines of a template are put between the marks of a block comment, and two
things can go wrong with that: a line can hold the mark that closes the
comment, and it can hold a part of a line ending.

The first is what validation asks about, and it is exactly the right question
(`renderBlock_readsWhole`).  A closing mark has no line feed and no carriage
return in it, so the one that a template holds lies in one of its lines, and
whole (`exists_mem_lines_of_closes`); and the scanner takes the first mark that
it meets for the end.

The second is answered line by line.  A template has the same lines whichever
of its line feeds are given a carriage return (`Respelled.lines_eq`), as long as
each gets only one: of two in front of a line feed the first belongs to the line
and is written as a part of it.
-/
import HeaderCheck.Proofs.Pairing
import HeaderCheck.Proofs.Valid

namespace HeaderCheck

/-! ## Closing marks -/

namespace Text

variable {t l p : Text}

theorem not_closes_singleton (c : Char) : ¬ closingMark <:+: [c] := by
  intro h
  have hlen : closingMark.length ≤ [c].length := h.length_le
  exact absurd hlen (by simp [closingMark])

/-- A closing mark lies in one of the pieces between line feeds. -/
theorem exists_mem_splitOn_of_closes (h : closingMark <:+: t) :
    ∃ p ∈ splitOn '\n' t, closingMark <:+: p := by
  induction t using pieceInduction '\n' with
  | one l hl => exact ⟨l, by rw [splitOn_of_not_mem hl, List.mem_singleton], h⟩
  | more above l hl ih =>
      rw [splitOn_append, splitOn_of_not_mem hl]
      -- the line feed is no half of a mark
      rcases closes_append.mp h with habove | hline | ⟨-, hhead⟩
      · obtain ⟨p, hp, hcloses⟩ := ih habove
        exact ⟨p, List.mem_append_left _ hp, hcloses⟩
      · rcases closes_cons.mp hline with ⟨hfeed, -⟩ | hl
        · exact absurd hfeed (by decide)
        · exact ⟨l, by simp, hl⟩
      · exact absurd (Option.some.inj hhead) (by decide)

/-- A carriage return that is dropped takes no mark away. -/
theorem closes_before?_getD (h : closingMark <:+: p) :
    closingMark <:+: (p.before? ['\r']).getD p := by
  cases hb : p.before? ['\r'] with
  | none => exact h
  | some q =>
      rw [before?_eq_some_iff.mp hb] at h
      rcases closes_append.mp h with hq | hr | ⟨-, hhead⟩
      · exact hq
      · exact absurd hr (not_closes_singleton '\r')
      · exact absurd (Option.some.inj hhead) (by decide)

theorem exists_mem_lines_of_closes (h : closingMark <:+: t) :
    ∃ l ∈ t.lines, closingMark <:+: l := by
  obtain ⟨p, hp, hcloses⟩ := exists_mem_splitOn_of_closes h
  exact ⟨_, List.mem_map_of_mem hp, closes_before?_getD hcloses⟩

end Text

theorem closes_headerLines (ending : LineEnding) {ls : List Text} {l : Text} (hl : l ∈ ls)
    (h : closingMark <:+: l) : closingMark <:+: headerLines ending ls := by
  induction ls with
  | nil => exact absurd hl List.not_mem_nil
  | cons k ls ih =>
      rw [headerLines]
      refine Text.closes_append.mpr (Or.inr (Or.inl (Text.closes_append.mpr (Or.inr (Or.inl ?_)))))
      rcases List.mem_cons.mp hl with rfl | hl
      · exact Text.closes_append.mpr (Or.inl h)
      · exact Text.closes_append.mpr (Or.inr (Or.inl (ih hl)))

/-- The body of a header holds a closing mark exactly if the template does. -/
theorem closes_headerBody_iff (template : Text) (ending : LineEnding) :
    closingMark <:+: headerBody template ending ↔ closingMark <:+: template := by
  constructor
  · intro h
    by_contra hno
    exact not_closes_headerBody hno ending h
  · intro h
    obtain ⟨l, hl, hcloses⟩ := Text.exists_mem_lines_of_closes h
    exact closes_headerLines ending hl hcloses

/-! ## What the scanner reads of a header -/

section Scanning

variable {template before after : Text} {ending : LineEnding} {n : Nat}

/-- What stands in a text behind the opening mark of a header. -/
theorem text_around_renderBlock (template : Text) (ending : LineEnding) (n : Nat)
    (before after : Text) :
    before ++ renderBlock template ending n ++ after =
      before ++ ((header template ending).text ++ (ending.mark.times n ++ after)) := by
  rw [renderBlock_eq]
  simp only [List.append_assoc]

/-- The scanner finds a comment directly behind a text. -/
theorem locate?_behind {w : Written} {rest : Text} (before : Text) (hw : w.Fits rest) :
    Comment.locate? (before ++ (w.text ++ rest)) (Text.width before) =
      some (some (w.span (Text.width before))) := by
  have hnone : ∀ c ∈ ([] : Text), isGap c = true := by simp
  exact locate?_written hnone hw

/-- The scanner finds the header of a template as it was written, without the
line endings behind it, and its inner text is what stands between its marks. -/
def ReadsWhole (template : Text) (ending : LineEnding) (n : Nat) (before after : Text) : Prop :=
  let text := before ++ renderBlock template ending n ++ after
  let block := renderBlock template ending 0
  let found : Comment := ⟨.block, Text.width before, Text.width before + Text.width block⟩
  Comment.locate? text (Text.width before) = some (some found) ∧
    ∃ inner, block = ['/', '*'] ++ inner ++ ['*', '/'] ∧ found.inner? text = some inner

/-- The scanner finds a block that begins with the header of a template and
ends before it does. -/
def ReadsLess (template : Text) (ending : LineEnding) (n : Nat) (before after : Text) : Prop :=
  ∃ stop, Comment.locate? (before ++ renderBlock template ending n ++ after) (Text.width before) =
      some (some ⟨.block, Text.width before, stop⟩) ∧
    stop < Text.width before + Text.width (renderBlock template ending 0)

theorem readsWhole_of_not_closes (h : ¬ closingMark <:+: template) :
    ReadsWhole template ending n before after := by
  have hfits : (header template ending).Fits (ending.mark.times n ++ after) :=
    mt (closes_headerBody_iff template ending).mp h
  have hfound : (header template ending).span (Text.width before) =
      ⟨.block, Text.width before,
        Text.width before + Text.width (renderBlock template ending 0)⟩ := by
    rw [renderBlock_zero]
    rfl
  refine ⟨?_, headerBody template ending, ?_, ?_⟩
  · rw [text_around_renderBlock, locate?_behind before hfits, hfound]
  · rw [renderBlock_zero]
    rfl
  · rw [text_around_renderBlock, ← hfound, ← List.append_assoc]
    exact Written.inner?_span before hfits

/-- The first closing mark ends the comment, and the last one of a header is
its own. -/
theorem readsLess_of_closes (h : closingMark <:+: template) :
    ReadsLess template ending n before after := by
  have hbody := (closes_headerBody_iff template ending).mpr h
  obtain ⟨⟨inner, rest⟩, hsplit⟩ :
      ∃ p, Text.splitClosing? (headerBody template ending) = some p :=
    Option.ne_none_iff_exists'.mp fun hnone => Text.splitClosing?_eq_none_iff.mp hnone hbody
  obtain ⟨heq, hfits⟩ := Text.eq_of_splitClosing? hsplit
  have hheader : (header template ending).text =
      (Written.closed inner).text ++ (rest ++ closingMark) := by
    show ['/', '*'] ++ headerBody template ending ++ closingMark = _
    rw [heq]
    show _ = ['/', '*'] ++ inner ++ closingMark ++ (rest ++ closingMark)
    simp only [List.append_assoc]
  refine ⟨Text.width before + Text.width (Written.closed inner).text, ?_, ?_⟩
  · rw [text_around_renderBlock, hheader, List.append_assoc]
    exact locate?_behind before hfits
  · have hmark : 0 < Text.width closingMark := by decide
    rw [renderBlock_zero, hheader, Text.width_append, Text.width_append]
    omega

/-- What was found of a header is not both. -/
theorem ReadsWhole.not_readsLess (h : ReadsWhole template ending n before after) :
    ¬ ReadsLess template ending n before after := by
  rintro ⟨stop, hfound, hless⟩
  have hsame := Option.some.inj (Option.some.inj (h.1.symm.trans hfound))
  have hstop := (Comment.mk.inj hsame).2.2
  rw [hstop] at hless
  exact Nat.lt_irrefl stop hless

/-- **Validation asks exactly the right question of a template.**  Wherever the
header of a template stands in a text, and however many line endings follow it,
the scanner finds the whole of it, with the inner text that it was written
with, if and only if the template holds no closing mark, which is what
validation accepts.  Of any other template it finds a block that ends too
early. -/
theorem renderBlock_readsWhole (template : Text) (ending : LineEnding) (n : Nat)
    (before after : Text) :
    (ReadsWhole template ending n before after ↔ ¬ closingMark <:+: template) ∧
      (Config.checkTemplate (some template) = .ok () ↔ ¬ closingMark <:+: template) ∧
      (closingMark <:+: template → ReadsLess template ending n before after) := by
  refine ⟨⟨fun h hcloses => h.not_readsLess (readsLess_of_closes hcloses),
    readsWhole_of_not_closes⟩, ?_, readsLess_of_closes⟩
  rw [Config.checkTemplate_eq_ok_iff, ← Text.includes_eq_true_iff, Bool.not_eq_true]
  exact ⟨fun h => h template rfl, fun h τ hτ => Option.some.inj hτ ▸ h⟩

/-- A line that ends in a star and one that begins with a slash do not make a
mark. -/
example : ReadsWhole "a*\r\n/b".toList .lf 1 "x".toList "y".toList :=
  readsWhole_of_not_closes (by decide)

end Scanning

/-! ## Line endings -/

namespace Text

variable {s t l p a b : Text}

/-- A text with a carriage return put before some line feeds, none of which had
one. -/
inductive Respelled (t : Text) : Text → Prop
  | same : Respelled t t
  | pair {a b : Text} :
      Respelled t (a ++ '\n' :: b) → a.getLast? ≠ some '\r' →
      Respelled t (a ++ '\r' :: '\n' :: b)

/-- It has the same lines. -/
theorem Respelled.lines_eq (h : Respelled t s) : s.lines = t.lines := by
  induction h with
  | same => rfl
  | @pair a b _ hlast ih =>
      have hsplit : a ++ '\r' :: '\n' :: b = (a ++ ['\r']) ++ '\n' :: b := by simp
      rw [hsplit, lines_append, lines_concat_return hlast, ← lines_append, ih]

/-- No line feed follows a carriage return. -/
def IsUnpaired (t : Text) : Prop :=
  ∀ before after, t = before ++ '\n' :: after → before.getLast? ≠ some '\r'

theorem isUnpaired_of_not_mem (h : '\n' ∉ t) : t.IsUnpaired := by
  rintro before after rfl
  exact absurd (List.mem_append_right before List.mem_cons_self) h

/-- Two texts without pairs make none, unless one is made at the seam. -/
theorem IsUnpaired.append (hs : s.IsUnpaired) (ht : t.IsUnpaired)
    (hseam : s.getLast? ≠ some '\r' ∨ t.head? ≠ some '\n') : (s ++ t).IsUnpaired := by
  intro before after h
  rcases List.append_eq_append_iff.mp h with ⟨x, rfl, hx⟩ | ⟨x, rfl, hx⟩
  · cases x with
    | nil =>
        rw [List.append_nil]
        exact hseam.resolve_right fun hne => hne (by rw [hx]; rfl)
    | cons d x =>
        rw [List.getLast?_append_of_ne_nil _ (List.cons_ne_nil d x)]
        exact ht (d :: x) after hx
  · cases x with
    | nil =>
        have hhead : t.head? = some '\n' := by
          rw [List.nil_append] at hx
          rw [← hx]
          rfl
        rw [List.append_nil] at hseam
        exact hseam.resolve_right fun hne => hne hhead
    | cons d x =>
        obtain ⟨rfl, -⟩ := List.cons.inj hx
        exact hs before x rfl

theorem IsUnpaired.left (h : (s ++ t).IsUnpaired) : s.IsUnpaired := by
  rintro before after rfl
  exact h before (after ++ t) (by simp)

theorem IsUnpaired.right (h : (s ++ t).IsUnpaired) : t.IsUnpaired := by
  rintro before after rfl hlast
  have hne : before ≠ [] := by
    rintro rfl
    cases hlast
  refine h (s ++ before) after (List.append_assoc s before _).symm ?_
  rw [List.getLast?_append_of_ne_nil s hne, hlast]

theorem isUnpaired_feed : IsUnpaired ['\n'] := by
  rintro (_ | ⟨c, before⟩) after h
  · simp
  · simp at h

theorem isUnpaired_times (n : Nat) : (LineEnding.lf.mark.times n).IsUnpaired := by
  induction n with
  | zero => exact isUnpaired_of_not_mem List.not_mem_nil
  | succ n ih =>
      rw [times_succ]
      exact isUnpaired_feed.append ih (Or.inl (by decide))

/-- A line that still ends in a carriage return had two of them before its line
feed, or at the end of the text. -/
theorem returns_of_mem_lines (hl : l ∈ t.lines) (hlast : l.getLast? = some '\r') :
    "\r\r\n".toList <:+: t ∨ "\r\r".toList <:+ t := by
  obtain ⟨p, hp, rfl⟩ := List.mem_map.mp hl
  obtain ⟨k, rfl⟩ : ∃ k, p = k ++ "\r\r".toList := by
    cases hb : p.before? ['\r'] with
    | none =>
        rw [hb, Option.getD_none] at hlast
        obtain ⟨k, rfl⟩ := List.getLast?_eq_some_iff.mp hlast
        rw [before?_append] at hb
        cases hb
    | some q =>
        rw [hb, Option.getD_some] at hlast
        obtain ⟨k, rfl⟩ := List.getLast?_eq_some_iff.mp hlast
        exact ⟨k, by rw [before?_eq_some_iff.mp hb, List.append_assoc]; rfl⟩
  rcases followed_of_mem_splitOn hp with hin | hend
  · exact Or.inl (List.IsInfix.trans ⟨k, [], by simp⟩ hin)
  · exact Or.inr (List.IsSuffix.trans ⟨k, rfl⟩ hend)

theorem exists_mem_lines_of_returns (t : Text) :
    ∃ l ∈ lines (t ++ "\r\r".toList), l.getLast? = some '\r' := by
  have hone : ∀ l : Text, '\n' ∉ l → lines (l ++ "\r\r".toList) = [l ++ ['\r']] := by
    intro l hno
    have hsplit : l ++ "\r\r".toList = (l ++ ['\r']) ++ ['\r'] := by simp
    rw [hsplit, lines_of_not_mem (by simpa using hno), before?_append, Option.getD_some]
  rcases exists_lastPiece '\n' t with hno | ⟨above, line, rfl, hline⟩
  · exact ⟨t ++ ['\r'], by rw [hone t hno, List.mem_singleton], List.getLast?_concat⟩
  · refine ⟨line ++ ['\r'], ?_, List.getLast?_concat⟩
    rw [List.append_assoc, List.cons_append, lines_append, hone line hline]
    exact List.mem_append_right _ List.mem_cons_self

/-- That is so whenever there are two of them. -/
theorem exists_return_line_iff :
    (∃ l ∈ t.lines, l.getLast? = some '\r') ↔
      "\r\r\n".toList <:+: t ∨ "\r\r".toList <:+ t := by
  constructor
  · rintro ⟨l, hl, hlast⟩
    exact returns_of_mem_lines hl hlast
  · rintro (⟨x, y, rfl⟩ | ⟨x, rfl⟩)
    · obtain ⟨l, hl, hlast⟩ := exists_mem_lines_of_returns x
      have hsplit : x ++ "\r\r\n".toList ++ y = (x ++ "\r\r".toList) ++ '\n' :: y := by simp
      rw [hsplit, lines_append]
      exact ⟨l, List.mem_append_left _ hl, hlast⟩
    · exact exists_mem_lines_of_returns x

end Text

/-- A header is written from the lines of its template. -/
theorem renderBlock_congr {s t : Text} (h : s.lines = t.lines) (ending : LineEnding) (n : Nat) :
    renderBlock s ending n = renderBlock t ending n := by
  rw [renderBlock, renderBlock, blockLines, blockLines, h]

theorem isUnpaired_headerLines {ls : List Text} (hfeed : ∀ l ∈ ls, '\n' ∉ l)
    (hreturn : ∀ l ∈ ls, l.getLast? ≠ some '\r') : (headerLines .lf ls).IsUnpaired := by
  have hstar : Text.IsUnpaired (LineEnding.lf.mark ++ " * ".toList) :=
    Text.isUnpaired_feed.append (Text.isUnpaired_of_not_mem (by decide)) (Or.inl (by decide))
  induction ls with
  | nil =>
      have hclosing : Text.IsUnpaired [' '] := Text.isUnpaired_of_not_mem (by decide)
      exact Text.isUnpaired_feed.append hclosing (Or.inl (by decide))
  | cons l ls ih =>
      have hls := ih (fun k hk => hfeed k (List.mem_cons_of_mem l hk))
        fun k hk => hreturn k (List.mem_cons_of_mem l hk)
      have hl := Text.isUnpaired_of_not_mem (hfeed l List.mem_cons_self)
      rw [headerLines, ← List.append_assoc]
      refine hstar.append (hl.append hls (Or.inl (hreturn l List.mem_cons_self))) (Or.inl ?_)
      decide

theorem exists_headerLines_eq_cons (ls : List Text) :
    ∃ rest, headerLines .lf ls = '\n' :: rest := by
  cases ls with
  | nil => exact ⟨_, rfl⟩
  | cons l ls => exact ⟨_, rfl⟩

/-- A line feed follows every line. -/
theorem no_return_of_headerLines {ls : List Text} {l : Text}
    (h : (headerLines .lf ls).IsUnpaired) (hl : l ∈ ls) : l.getLast? ≠ some '\r' := by
  induction ls with
  | nil => cases hl
  | cons k ls ih =>
      rw [headerLines] at h
      have hbehind := h.right.right
      rcases List.mem_cons.mp hl with rfl | hl
      · obtain ⟨rest, hrest⟩ := exists_headerLines_eq_cons ls
        exact hbehind l rest (by rw [hrest])
      · exact ih hbehind.right hl

section OneConvention

variable {template : Text}

/-- Where lines end in line feeds, a carriage return is before one only if it
was left at the end of a line. -/
theorem isUnpaired_renderBlock_iff (n : Nat) :
    (renderBlock template .lf n).IsUnpaired ↔
      ∀ l ∈ template.lines, l.getLast? ≠ some '\r' := by
  rw [renderBlock_eq]
  constructor
  · intro h l hl
    have hbody : (headerBody template .lf).IsUnpaired := h.left.left.right
    exact no_return_of_headerLines hbody hl
  · intro hreturn
    have hbody : (headerBody template .lf).IsUnpaired :=
      isUnpaired_headerLines (fun _ hl => Text.not_mem_lines hl) hreturn
    have hopen : Text.IsUnpaired ['/', '*'] := Text.isUnpaired_of_not_mem (by decide)
    have hclose : Text.IsUnpaired closingMark := Text.isUnpaired_of_not_mem (by decide)
    have hhead : closingMark.head? ≠ some '\n' := by decide
    refine Text.IsUnpaired.append ?_ (Text.isUnpaired_times n) (Or.inl ?_)
    · exact (hopen.append hbody (Or.inl (by decide))).append hclose (Or.inr hhead)
    · show (['/', '*'] ++ headerBody template .lf ++ closingMark).getLast? ≠ some '\r'
      rw [List.getLast?_append_of_ne_nil _ (by decide)]
      decide

/-- The header of a template does not change when any line feed of it is given
a carriage return. -/
def RendersAlike (template : Text) (ending : LineEnding) (n : Nat) : Prop :=
  ∀ a b, template = a ++ '\n' :: b →
    renderBlock (a ++ '\r' :: '\n' :: b) ending n = renderBlock template ending n

/-- **A header has one convention for its line endings.**  Carriage returns
before line feeds that have none make no difference to it; where its lines end
in pairs, every line feed in it belongs to one; and where they do not, none
does, unless a line of the template ended in two carriage returns. -/
theorem renderBlock_oneConvention (template : Text) (ending : LineEnding) (n : Nat) :
    (∀ s, template.Respelled s → renderBlock s ending n = renderBlock template ending n) ∧
      (renderBlock template .crlf n).IsPaired ∧
      ((renderBlock template .lf n).IsUnpaired ↔
        ¬ ("\r\r\n".toList <:+: template ∨ "\r\r".toList <:+ template)) := by
  refine ⟨fun _ hs => renderBlock_congr hs.lines_eq ending n, isPaired_renderBlock template n, ?_⟩
  rw [isUnpaired_renderBlock_iff, ← Text.exists_return_line_iff]
  simp only [not_exists, not_and, ne_eq]

/-- Where a line ends in two carriage returns, one is left, and it is left with
a line feed behind it. -/
theorem not_rendersAlike_return :
    ¬ RendersAlike "a\r\r\nb".toList .lf 0 ∧
      ¬ (renderBlock "a\r\r\nb".toList .lf 0).IsUnpaired := by
  constructor
  · intro h
    have hsame := h "a\r\r".toList "b".toList rfl
    exact absurd hsame (by decide)
  · intro h
    exact h "/*\n * a\r".toList " * b\n */".toList (by decide) rfl

end OneConvention

end HeaderCheck
