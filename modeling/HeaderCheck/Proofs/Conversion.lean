/-
# Texts in the other line ending

Conversion puts a carriage return before each line feed.  It acts on a text
part by part, so the parts that the check tells apart — the interpreter line,
the gap, the comment, the rest — are converted one by one, and the converted
text has the converted anatomy (`Anatomy.Sound.crlf`, `Bare.crlf`).

That rests on what conversion does not touch: pieces without line breaks
begin and occur in both texts or in neither (`prefix_crlf_iff`,
`infix_crlf_iff`), which settles the marks of comments and of interpreter
lines, and a class of characters that holds both characters of the break or
neither is kept (`all_crlf`, `head_crlf`), which settles gaps, blanks and
the ends of line comments.

The rendered header and the missing line breaks are conversions of one
another because they are written with the line ending of the text and
nothing else.
-/
import HeaderCheck.Proofs.Anatomy

namespace HeaderCheck

/-! ## Conversion -/

namespace Text

/-- The text with a carriage return before each line feed. -/
def crlf (t : Text) : Text :=
  t.flatMap fun c => if c = '\n' then ['\r', '\n'] else [c]

@[simp] theorem crlf_nil : crlf [] = [] := rfl

@[simp] theorem crlf_cons_feed (t : Text) : crlf ('\n' :: t) = '\r' :: '\n' :: crlf t := rfl

theorem crlf_cons_ne {c : Char} (h : c ≠ '\n') (t : Text) : crlf (c :: t) = c :: crlf t := by
  rw [crlf, List.flatMap_cons, if_neg h]
  rfl

@[simp] theorem crlf_append (s t : Text) : crlf (s ++ t) = crlf s ++ crlf t :=
  List.flatMap_append

theorem crlf_of_not_mem {t : Text} (h : '\n' ∉ t) : crlf t = t := by
  induction t with
  | nil => rfl
  | cons c t ih =>
      obtain ⟨hc, ht⟩ := not_or.mp (mt List.mem_cons.mpr h)
      rw [crlf_cons_ne (Ne.symm hc), ih ht]

theorem head?_crlf (t : Text) :
    (crlf t).head? = t.head?.map fun c => if c = '\n' then '\r' else c := by
  cases t with
  | nil => rfl
  | cons c t =>
      by_cases hc : c = '\n'
      · subst hc
        rfl
      · rw [crlf_cons_ne hc, List.head?_cons, List.head?_cons, Option.map_some, if_neg hc]

theorem feed_mem_crlf {t : Text} (h : '\n' ∈ t) : '\n' ∈ crlf t :=
  List.mem_flatMap.mpr ⟨'\n', h, by simp⟩

/-- A line feed is left if the edit writes one, or takes nothing away. -/
theorem feed_mem_edit {a b c new : Text} (h : '\n' ∈ a ++ b ++ c)
    (hn : '\n' ∈ new ∨ b = []) : '\n' ∈ a ++ new ++ c := by
  simp only [List.mem_append] at h ⊢
  rcases hn with hn | rfl
  · exact Or.inl (Or.inr hn)
  · rcases h with (ha | hb) | hc
    · exact Or.inl (Or.inl ha)
    · exact absurd hb List.not_mem_nil
    · exact Or.inr hc

/-! ### What conversion does not touch -/

variable {p : Char → Bool} {s t : Text}

/-- A class of characters that holds both of a break or neither is kept. -/
theorem all_crlf {b : Bool} (hp : p '\r' = p '\n') (h : ∀ c ∈ t, p c = b) :
    ∀ c ∈ crlf t, p c = b := by
  intro c hc
  obtain ⟨d, hd, hc⟩ := List.mem_flatMap.mp hc
  split at hc
  next hfeed =>
    subst hfeed
    rcases List.mem_cons.mp hc with rfl | hc
    · rw [hp, h _ hd]
    · rw [List.mem_singleton.mp hc, h _ hd]
  next => rw [List.mem_singleton.mp hc, h _ hd]

theorem head_crlf {b : Bool} (hp : p '\r' = p '\n') (h : ∀ c ∈ t.head?, p c = b) :
    ∀ c ∈ (crlf t).head?, p c = b := by
  intro c hc
  rw [head?_crlf, Option.mem_def, Option.map_eq_some_iff] at hc
  obtain ⟨d, hd, rfl⟩ := hc
  split
  next hfeed =>
    rw [hp, ← hfeed]
    exact h d hd
  next => exact h d hd

theorem ne_of_isLineBreak {c : Char} (h : isLineBreak c = false) : c ≠ '\r' ∧ c ≠ '\n' := by
  simpa [isLineBreak] using h

/-- A piece without line breaks begins both texts or neither. -/
theorem prefix_crlf_iff (hs : ∀ c ∈ s, isLineBreak c = false) : s <+: crlf t ↔ s <+: t := by
  induction s generalizing t with
  | nil => simp
  | cons d s ih =>
      obtain ⟨hr, hn⟩ := ne_of_isLineBreak (hs d List.mem_cons_self)
      cases t with
      | nil => simp
      | cons c t =>
          by_cases hc : c = '\n'
          · subst hc
            simp [List.cons_prefix_cons, hr, hn]
          · rw [crlf_cons_ne hc, List.cons_prefix_cons, List.cons_prefix_cons,
              ih fun c hc => hs c (List.mem_cons_of_mem d hc)]

/-- A piece without line breaks occurs in both texts or in neither. -/
theorem infix_crlf_iff (hs : ∀ c ∈ s, isLineBreak c = false) : s <:+: crlf t ↔ s <:+: t := by
  induction t with
  | nil => rw [crlf_nil]
  | cons c t ih =>
      by_cases hc : c = '\n'
      · subst hc
        cases s with
        | nil => simp
        | cons d s =>
            obtain ⟨hr, hn⟩ := ne_of_isLineBreak (hs d List.mem_cons_self)
            rw [crlf_cons_feed, List.infix_cons_iff, List.infix_cons_iff, ih,
              @List.infix_cons_iff _ _ '\n' t]
            simp [List.cons_prefix_cons, hr, hn]
      · have hpre := @prefix_crlf_iff s (c :: t) hs
        rw [crlf_cons_ne hc] at hpre ⊢
        rw [List.infix_cons_iff, hpre, ih, ← List.infix_cons_iff]

/-- The blanks that a text consists of, and the line breaks that it begins
with, are the same in both conventions. -/
theorem isBlank_crlf (t : Text) : (crlf t).isBlank = t.isBlank := by
  induction t with
  | nil => rfl
  | cons c t ih =>
      rw [isBlank, isBlank] at ih
      by_cases hc : c = '\n'
      · subst hc
        rw [isBlank, isBlank, crlf_cons_feed, List.all_cons, List.all_cons, List.all_cons, ih]
        rfl
      · rw [isBlank, isBlank, crlf_cons_ne hc, List.all_cons, List.all_cons, ih]

theorem afterBreak?_crlf (h : '\r' ∉ t) : (crlf t).afterBreak? = t.afterBreak?.map crlf := by
  cases t with
  | nil => rfl
  | cons c t =>
      obtain ⟨hr, -⟩ := not_or.mp (mt List.mem_cons.mpr h)
      by_cases hc : c = '\n'
      · subst hc
        rfl
      · rw [crlf_cons_ne hc]
        simp [afterBreak?, hc, Ne.symm hr]

theorem not_mem_afterBreak? {r : Text} (h : '\r' ∉ t) (hr : t.afterBreak? = some r) :
    '\r' ∉ r := by
  cases t with
  | nil => cases hr
  | cons c t =>
      obtain ⟨hc, ht⟩ := not_or.mp (mt List.mem_cons.mpr h)
      by_cases hf : c = '\n'
      · subst hf
        obtain rfl := Option.some.inj hr
        exact ht
      · simp [afterBreak?, hf, Ne.symm hc] at hr

theorem leadingBreaks_crlf (h : '\r' ∉ t) (n : Nat) :
    (crlf t).leadingBreaks n = t.leadingBreaks n := by
  induction n generalizing t with
  | zero => rfl
  | succ n ih =>
      rw [leadingBreaks, leadingBreaks, afterBreak?_crlf h]
      cases hr : t.afterBreak? with
      | none => rfl
      | some r =>
          rw [Option.map_some]
          exact congrArg (· + 1) (ih (not_mem_afterBreak? h hr))

end Text

namespace LineEnding

theorem crlf_mark : Text.crlf lf.mark = crlf.mark := rfl

theorem crlf_times (n : Nat) : Text.crlf (lf.mark.times n) = crlf.mark.times n := by
  induction n with
  | zero => rfl
  | succ n ih => rw [Text.times_succ, Text.times_succ, Text.crlf_append, ih, crlf_mark]

theorem detect_of_no_return {t : Text} (h : '\r' ∉ t) : detect t = lf := by
  fun_induction detect t with
  | case1 => rfl
  | case2 t => rfl
  | case3 t => exact absurd List.mem_cons_self h
  | case4 c t hfeed hpair ih => exact ih fun ht => h (List.mem_cons_of_mem c ht)

/-- A converted text is of the other convention, if it has a line feed. -/
theorem detect_crlf {t : Text} (hr : '\r' ∉ t) (hn : '\n' ∈ t) : detect t.crlf = crlf := by
  obtain ⟨line, rest, rfl, hline⟩ := List.eq_append_cons_of_mem hn
  rw [Text.crlf_append, Text.crlf_of_not_mem hline, detect_append_of_not_mem hline (by simp)]
  rfl

end LineEnding

/-! ## The converted anatomy -/

namespace Written

/-- The comment with its body converted. -/
def crlf : Written → Written
  | line b => line b.crlf
  | closed b => closed b.crlf
  | unclosed b => unclosed b.crlf

variable {w : Written} {rest : Text}

@[simp] theorem body_crlf (w : Written) : w.crlf.body = w.body.crlf := by
  cases w <;> rfl

@[simp] theorem text_crlf (w : Written) : w.crlf.text = w.text.crlf := by
  have hopen : Text.crlf w.opener = w.opener := by cases w <;> rfl
  have hclose : Text.crlf w.closer = w.closer := by cases w <;> rfl
  rw [text, text, Text.crlf_append, Text.crlf_append, hopen, hclose, body_crlf]
  cases w <;> rfl

theorem isLineBreak_closingMark : ∀ c ∈ closingMark, isLineBreak c = false := by
  simp [closingMark, isLineBreak]

theorem Fits.crlf (h : w.Fits rest) : w.crlf.Fits rest.crlf := by
  cases w with
  | line b =>
      obtain ⟨hbody, hrest⟩ := h
      exact ⟨Text.all_crlf rfl hbody, Text.head_crlf rfl hrest⟩
  | closed b => exact mt (Text.infix_crlf_iff isLineBreak_closingMark).mp h
  | unclosed b =>
      obtain ⟨hbody, rfl⟩ := h
      exact ⟨mt (Text.infix_crlf_iff isLineBreak_closingMark).mp hbody, rfl⟩

end Written

namespace Text

variable {mark line front rest t : Text}

theorem IsMark.crlf_eq (h : IsMark mark rest) : mark.crlf = mark := by
  cases h <;> rfl

theorem IsMark.crlf (h : IsMark mark rest) : IsMark mark rest.crlf := by
  cases h with
  | present => exact .present
  | absent h =>
      refine .absent fun hmark => h ?_
      rw [head?_crlf, Option.map_eq_some_iff] at hmark
      obtain ⟨c, hc, he⟩ := hmark
      split at he
      next => exact absurd he (by decide)
      next => rw [hc, he]

theorem IsInterpreter.crlf (h : IsInterpreter line rest) :
    IsInterpreter line.crlf rest.crlf := by
  cases h with
  | absent h => exact .absent (mt (prefix_crlf_iff (by simp [isLineBreak])).mp h)
  | @ended line rest h =>
      have hn : '\n' ∉ line ++ ['\r'] := by simpa using h
      have hline : Text.crlf ('#' :: '!' :: line ++ ['\n']) =
          '#' :: '!' :: (line ++ ['\r']) ++ ['\n'] := by
        rw [crlf_append, crlf_cons_ne (by decide), crlf_cons_ne (by decide), crlf_of_not_mem h]
        simp
      rw [hline]
      exact .ended hn
  | @unended line h =>
      rw [crlf_cons_ne (by decide), crlf_cons_ne (by decide), crlf_of_not_mem h]
      exact .unended h

theorem IsFront.crlf (h : IsFront front rest) : IsFront front.crlf rest.crlf := by
  obtain ⟨mark, line, rfl, hm, hi⟩ := h
  refine ⟨mark, line.crlf, by rw [crlf_append, hm.crlf_eq], ?_, hi.crlf⟩
  rw [← crlf_append]
  exact hm.crlf

/-- Where there is a line feed, no front stops in the middle of a line. -/
theorem IsFront.hasOpenLine_of_feed (h : IsFront front rest) (hn : '\n' ∈ front ++ rest) :
    front.hasOpenLine = false := by
  cases hl : front.hasOpenLine with
  | false => rfl
  | true =>
      obtain ⟨rfl, hno, -⟩ := h.endLine hl
      rw [List.append_nil] at hn
      exact absurd hn hno

theorem opensWith?_eq_none_iff :
    opensWith? t = none ↔ ¬ ['/', '/'] <+: t ∧ ¬ ['/', '*'] <+: t := by
  unfold opensWith?
  split
  next u => exact ⟨fun h => (nomatch h), fun h => absurd ⟨u, rfl⟩ h.1⟩
  next u =>
    refine ⟨fun h => ?_, fun h => absurd ⟨u, rfl⟩ h.2⟩
    cases hs : splitClosing? u <;> simp [hs] at h
  next hline hblock =>
    refine ⟨fun _ => ⟨?_, ?_⟩, fun _ => rfl⟩
    · rintro ⟨u, rfl⟩
      exact hline u rfl
    · rintro ⟨u, rfl⟩
      exact hblock u rfl

theorem opensWith?_crlf (h : opensWith? t = none) : opensWith? t.crlf = none := by
  rw [opensWith?_eq_none_iff] at h ⊢
  refine ⟨mt (prefix_crlf_iff ?_).mp h.1, mt (prefix_crlf_iff ?_).mp h.2⟩ <;>
    simp [isLineBreak]

end Text

namespace Anatomy

/-- The anatomy of the converted text. -/
def crlf (a : Anatomy) : Anatomy :=
  { front := a.front.crlf, gap := a.gap.crlf, comment := a.comment.crlf, rest := a.rest.crlf }

variable {a : Anatomy}

@[simp] theorem text_crlf (a : Anatomy) : a.crlf.text = a.text.crlf := by
  simp only [text, crlf, Written.text_crlf, Text.crlf_append]

theorem Sound.crlf (h : a.Sound) : a.crlf.Sound where
  front := by
    have hfront := h.front.crlf
    rw [Text.crlf_append, Text.crlf_append, ← Written.text_crlf] at hfront
    exact hfront
  blank := Text.all_crlf rfl h.blank
  fits := h.fits.crlf

end Anatomy

theorem Bare.crlf {front rest : Text} (h : Bare front rest) : Bare front.crlf rest.crlf where
  front := h.front.crlf
  commentless := by
    have hgap : ∀ c ∈ rest.takeWhile isGap, isGap c = true :=
      fun _ hc => List.mem_takeWhile_imp hc
    rw [← @List.takeWhile_append_dropWhile _ isGap rest, Text.crlf_append,
      Text.dropWhile_eq_of_boundary (Text.all_crlf rfl hgap)
        (Text.head_crlf rfl (Text.dropWhile_boundary isGap rest))]
    exact Text.opensWith?_crlf h.commentless

/-! ## The converted header -/

theorem crlf_headerLines {ls : List Text} (h : ∀ l ∈ ls, '\n' ∉ l) :
    (headerLines .lf ls).crlf = headerLines .crlf ls := by
  induction ls with
  | nil => rfl
  | cons l ls ih =>
      have hl : l.crlf = l := Text.crlf_of_not_mem (h l List.mem_cons_self)
      have hstar : Text.crlf " * ".toList = " * ".toList := by decide
      rw [headerLines, headerLines, Text.crlf_append, Text.crlf_append, Text.crlf_append, hl, hstar,
        LineEnding.crlf_mark, ih fun k hk => h k (List.mem_cons_of_mem l hk)]

/-- The header is written with the line endings of its convention only. -/
theorem header_crlf (template : Text) : (header template .lf).crlf = header template .crlf := by
  show Written.closed (headerLines .lf template.lines).crlf = _
  rw [crlf_headerLines fun _ hl => Text.not_mem_lines hl]
  rfl

theorem renderBlock_crlf (template : Text) (n : Nat) :
    (renderBlock template .lf n).crlf = renderBlock template .crlf n := by
  rw [renderBlock_eq, renderBlock_eq, Text.crlf_append, ← Written.text_crlf, header_crlf,
    LineEnding.crlf_times]

end HeaderCheck
