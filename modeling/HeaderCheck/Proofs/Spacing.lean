/-
# The blank line behind a header

A rule can ask for a blank line behind the header.  Two line breaks make one,
each of either convention, and a file that goes on with nothing but blanks
needs none.  The check counts the line breaks no further than the second, and
its fix writes those that are missing.

Every text begins with some number of line breaks and no more
(`exists_hasLeadingBreaks`), and what the check counts is that number, cut off
at two (`HasLeadingBreaks.leadingBreaks_eq`).  Line breaks that are put in
front of a text add to its number, whatever it begins with: a carriage return
alone is no line break, and no line break joins what follows it.  Hence the
number behind a comment is known after any such insertion
(`Anatomy.hasLeadingBreaks_withBreaks`), and the comment itself stays what it
was, because a line comment ends at a line break and nothing follows a block
that was not closed (`Anatomy.Sound.withBreaks`).
-/
import HeaderCheck.Config
import HeaderCheck.Proofs.Convergence

namespace HeaderCheck

/-! ## The line breaks that a text begins with -/

namespace Text

/-- The text begins with so many line breaks, each in either convention. -/
def StartsWithBreaks (n : Nat) (t : Text) : Prop :=
  ∃ endings : List LineEnding, endings.length = n ∧ endings.flatMap LineEnding.mark <+: t

/-- The text begins with so many line breaks and no more. -/
def HasLeadingBreaks (n : Nat) (t : Text) : Prop :=
  ∃ (endings : List LineEnding) (rest : Text), endings.length = n ∧
    t = endings.flatMap LineEnding.mark ++ rest ∧ ∀ ending : LineEnding, ¬ ending.mark <+: rest

variable {t r : Text} {n k j : Nat}

theorem afterBreak?_eq_some_iff :
    t.afterBreak? = some r ↔ ∃ ending : LineEnding, t = ending.mark ++ r := by
  constructor
  · intro h
    unfold afterBreak? at h
    split at h
    next u => exact ⟨.crlf, by rw [Option.some.inj h]; rfl⟩
    next u => exact ⟨.lf, by rw [Option.some.inj h]; rfl⟩
    next => cases h
  · rintro ⟨ending, rfl⟩
    exact afterBreak?_mark ending r

theorem afterBreak?_eq_none_iff :
    t.afterBreak? = none ↔ ∀ ending : LineEnding, ¬ ending.mark <+: t := by
  rw [Option.eq_none_iff_forall_ne_some]
  constructor
  · rintro h ending ⟨r, rfl⟩
    exact h r (afterBreak?_mark ending r)
  · intro h r hr
    obtain ⟨ending, rfl⟩ := afterBreak?_eq_some_iff.mp hr
    exact h ending (List.prefix_append _ _)

theorem hasLeadingBreaks_zero (h : t.afterBreak? = none) : t.HasLeadingBreaks 0 :=
  ⟨[], t, rfl, rfl, afterBreak?_eq_none_iff.mp h⟩

/-- Line breaks in front of a text add to those it begins with. -/
theorem HasLeadingBreaks.append (h : t.HasLeadingBreaks k) (endings : List LineEnding) :
    HasLeadingBreaks (endings.length + k) (endings.flatMap LineEnding.mark ++ t) := by
  obtain ⟨more, rest, rfl, rfl, hrest⟩ := h
  refine ⟨endings ++ more, rest, List.length_append, ?_, hrest⟩
  rw [List.flatMap_append, List.append_assoc]

theorem HasLeadingBreaks.times (h : t.HasLeadingBreaks k) (ending : LineEnding) (n : Nat) :
    (ending.mark.times n ++ t).HasLeadingBreaks (n + k) := by
  have happend := h.append (List.replicate n ending)
  rwa [List.flatMap_replicate, List.length_replicate] at happend

theorem exists_hasLeadingBreaks (t : Text) : ∃ n, t.HasLeadingBreaks n := by
  induction hlen : t.length using Nat.strongRecOn generalizing t with
  | ind m ih =>
      cases h : t.afterBreak? with
      | none => exact ⟨0, hasLeadingBreaks_zero h⟩
      | some r =>
          obtain ⟨ending, rfl⟩ := afterBreak?_eq_some_iff.mp h
          have hshort : r.length < m := by
            rw [← hlen, List.length_append]
            cases ending <;> simp [LineEnding.mark]
          obtain ⟨n, hn⟩ := ih r.length hshort r rfl
          have hmore := hn.append [ending]
          rw [List.flatMap_singleton] at hmore
          exact ⟨_, hmore⟩

/-- The count of the check is their number, as far as it goes. -/
theorem HasLeadingBreaks.leadingBreaks_eq (h : t.HasLeadingBreaks k) (n : Nat) :
    t.leadingBreaks n = min n k := by
  obtain ⟨endings, rest, rfl, rfl, hrest⟩ := h
  induction endings generalizing n with
  | nil =>
      have hnone : rest.afterBreak? = none := afterBreak?_eq_none_iff.mpr hrest
      cases n with
      | zero => rfl
      | succ n => simp [leadingBreaks, hnone]
  | cons ending endings ih =>
      cases n with
      | zero => rw [leadingBreaks, Nat.zero_min]
      | succ n =>
          rw [List.flatMap_cons, List.append_assoc, leadingBreaks, afterBreak?_mark]
          simp only [ih, List.length_cons]
          omega

theorem HasLeadingBreaks.unique (h : t.HasLeadingBreaks k) (hj : t.HasLeadingBreaks j) :
    k = j := by
  have hk := h.leadingBreaks_eq (k + j)
  rw [hj.leadingBreaks_eq] at hk
  omega

theorem HasLeadingBreaks.startsWithBreaks_iff (h : t.HasLeadingBreaks k) :
    t.StartsWithBreaks n ↔ n ≤ k := by
  constructor
  · rintro ⟨endings, rfl, rest, rfl⟩
    obtain ⟨j, hj⟩ := exists_hasLeadingBreaks rest
    rw [h.unique (hj.append endings)]
    exact Nat.le_add_right _ _
  · obtain ⟨endings, rest, rfl, rfl, -⟩ := h
    intro hn
    refine ⟨endings.take n, List.length_take_of_le hn, ?_⟩
    rw [← List.take_append_drop n endings, List.flatMap_append, List.append_assoc,
      List.take_append_drop]
    exact List.prefix_append _ _

/-- No line breaks make a text blank that is not. -/
theorem isBlank_times (ending : LineEnding) (n : Nat) (t : Text) :
    isBlank (ending.mark.times n ++ t) = t.isBlank := by
  induction n with
  | zero => rfl
  | succ n ih =>
      have hmark : ending.mark.all HeaderCheck.isBlank = true := by cases ending <;> rfl
      rw [times_succ, List.append_assoc, isBlank, List.all_append, hmark, Bool.true_and, ← ih]
      rfl

end Text

/-! ## Line breaks behind a comment -/

namespace Anatomy

variable {a : Anatomy} {n k : Nat}

/-- The text with some line endings of its convention behind its comment. -/
def withBreaks (a : Anatomy) (n : Nat) : Anatomy :=
  { a with rest := (LineEnding.detect a.text).mark.times n ++ a.rest }

theorem Sound.withBreaks (h : a.Sound) (hr : a.rest.isBlank = false) (n : Nat) :
    (a.withBreaks n).Sound := by
  have hne : a.rest ≠ [] := by
    intro hnil
    rw [hnil] at hr
    exact Bool.noConfusion hr
  exact h.exchange (h.fits.times hne _ n)

theorem hasLeadingBreaks_withBreaks (h : a.rest.HasLeadingBreaks k) (n : Nat) :
    (a.withBreaks n).rest.HasLeadingBreaks (n + k) :=
  h.times _ n

theorem isBlank_withBreaks (a : Anatomy) (n : Nat) :
    (a.withBreaks n).rest.isBlank = a.rest.isBlank :=
  Text.isBlank_times _ n a.rest

/-- They are what an insertion at the end of the comment puts there. -/
theorem edit?_withBreaks (a : Anatomy) (n : Nat) :
    (Fix.insertion a.span.stop ((LineEnding.detect a.text).mark.times n)).edit? a.text =
      some (a.withBreaks n).text := by
  rw [edit?_span_stop, (a.withBreaks n).text_eq, List.append_assoc _ _ a.rest]
  rfl

/-- A comment is spaced if a blank line or nothing but blanks follows it. -/
theorem spaced_iff : a.Spaced ↔ a.rest.isBlank = true ∨ a.rest.StartsWithBreaks 2 := by
  obtain ⟨k, hk⟩ := Text.exists_hasLeadingBreaks a.rest
  rw [Spaced, breaks, hk.leadingBreaks_eq, hk.startsWithBreaks_iff, breaksAfterHeader]
  exact or_congr_right (by omega)

theorem spaced_withBreaks_iff (h : a.rest.HasLeadingBreaks k) (hr : a.rest.isBlank = false) :
    (a.withBreaks n).Spaced ↔ 2 ≤ n + k := by
  rw [spaced_iff, isBlank_withBreaks, hr, (hasLeadingBreaks_withBreaks h n).startsWithBreaks_iff]
  simp

end Anatomy

/-! ## The check and its fix -/

section BlankLine

variable {r : Rule} {t : Text} {c : Comment} {a : Anatomy}

/-- A comment that is found valid is one in its place that the pattern
accepts. -/
theorem exists_anatomy_of_valid (h : r.verdict? t = some (.valid c)) :
    ∃ a : Anatomy, a.Sound ∧ r.pattern.accepts a.comment.body = true ∧ t = a.text ∧ c = a.span := by
  rcases r.verdict?_cases t with ⟨a, ha, hp, ht, hv⟩ | ⟨a, -, -, -, hv⟩ | ⟨front, rest, -, -, hv⟩
  · obtain rfl := Verdict.valid.inj (Option.some.inj (h.symm.trans hv))
    exact ⟨a, ha, hp, ht, rfl⟩
  · exact Verdict.noConfusion (Option.some.inj (h.symm.trans hv))
  · exact Verdict.noConfusion (Option.some.inj (h.symm.trans hv))

theorem verdict?_of_accepts (h : a.Sound) (hp : r.pattern.accepts a.comment.body = true) :
    r.verdict? a.text = some (.valid a.span) := by
  rw [h.verdict?_eq, if_pos hp]

/-- Behind an accepted comment, a rule that asks for a blank line reports just
what is found there. -/
theorem check_withBlankLine (h : a.Sound) (hp : r.pattern.accepts a.comment.body = true) :
    diagnoseBlankLine? a.text a.span = some ((r.withBlankLine true).check a.text) := by
  rw [a.diagnoseBlankLine?_span, check_valid (r := r.withBlankLine true) h hp]
  by_cases hs : a.Spaced <;> simp [hs, Rule.withBlankLine]

/-- A comment and its text stay when line breaks are put behind it, and so
does the verdict on it. -/
theorem Anatomy.Sound.finds_withBreaks (h : a.Sound)
    (hp : r.pattern.accepts a.comment.body = true) (hr : a.rest.isBlank = false) (n : Nat) :
    (a.withBreaks n).text.Finds a.span a.comment.body ∧
      r.verdict? (a.withBreaks n).text = some (.valid a.span) :=
  have hn := h.withBreaks hr n
  ⟨⟨hn.locate?_eq, hn.inner?_eq⟩, verdict?_of_accepts hn hp⟩

/-- Line endings in the convention of a text, at the end of a comment. -/
def breaksAt (t : Text) (c : Comment) (n : Nat) : Fix :=
  .insertion c.stop ((LineEnding.detect t).mark.times n)

/-- Of the two line breaks behind a valid header, `k` are there.  The fix
writes the others: with all of them nothing is reported any more, with fewer
the blank line still is, and the header stays what it was either way. -/
structure LacksBreaks (r : Rule) (t : Text) (c : Comment) (rest body : Text) (k : Nat) : Prop where
  fewer : k < 2
  leading : rest.HasLeadingBreaks k
  reported : diagnoseBlankLine? t c =
    some (some (.at .missingNewLine c.stop (some (breaksAt t c (2 - k)))))
  inserted : ∀ n ≤ 2 - k, ∃ u, (breaksAt t c n).edit? t = some u ∧
    u.Finds c body ∧ r.verdict? u = some (.valid c) ∧
    diagnoseBlankLine? u c = some ((r.withBlankLine true).check u) ∧
    (n = 2 - k → (r.withBlankLine true).check u = none) ∧
    (n < 2 - k → ∃ d, (r.withBlankLine true).check u = some d ∧ d.finding = .missingNewLine)

theorem lacksBreaks_of_not_spaced {k : Nat} (h : a.Sound)
    (hp : r.pattern.accepts a.comment.body = true) (hr : a.rest.isBlank = false)
    (hk : a.rest.HasLeadingBreaks k) (hlt : k < 2) :
    LacksBreaks r a.text a.span a.rest a.comment.body k where
  fewer := hlt
  leading := hk
  reported := by
    have hcount : a.breaks = k := by
      rw [Anatomy.breaks, hk.leadingBreaks_eq]
      exact Nat.min_eq_right hlt.le
    have hs : ¬ a.Spaced := by
      rw [Anatomy.spaced_iff, hk.startsWithBreaks_iff, hr]
      simpa using hlt
    rw [a.diagnoseBlankLine?_span, if_neg hs, Anatomy.spacing, hcount]
    rfl
  inserted := by
    intro n hn
    have hsound := h.withBreaks hr n
    obtain ⟨hfinds, hvalid⟩ := h.finds_withBreaks (r := r) hp hr n
    have hspaced := Anatomy.spaced_withBreaks_iff (n := n) hk hr
    have hcheck := check_valid (r := r.withBlankLine true) hsound hp
    refine ⟨(a.withBreaks n).text, a.edit?_withBreaks n, hfinds, hvalid,
      check_withBlankLine hsound hp, fun heq => ?_, fun hfew => ?_⟩
    · rw [hcheck, if_neg fun hc => hc.2 (hspaced.mpr (by omega))]
    · rw [hcheck, if_pos ⟨rfl, hspaced.not.mpr (by omega)⟩]
      exact ⟨_, rfl, rfl⟩

/-- **The check for a blank line is exact, and its fix is the least that
helps.**  It reports nothing exactly if two line breaks or nothing but blanks
follow the header, and otherwise the line endings that are missing there. -/
theorem blankLine_exact (h : r.verdict? t = some (.valid c)) :
    ∃ rest body, t.from? c.stop = some rest ∧ t.Finds c body ∧
      (diagnoseBlankLine? t c = some none ↔ rest.isBlank = true ∨ rest.StartsWithBreaks 2) ∧
      (¬ (rest.isBlank = true ∨ rest.StartsWithBreaks 2) →
        ∃ k, LacksBreaks r t c rest body k) := by
  obtain ⟨a, ha, hp, rfl, rfl⟩ := exists_anatomy_of_valid h
  refine ⟨a.rest, a.comment.body, a.from?_stop, ⟨ha.locate?_eq, ha.inner?_eq⟩, ?_, ?_⟩
  · rw [a.diagnoseBlankLine?_span, ← Anatomy.spaced_iff]
    by_cases hs : a.Spaced <;> simp [hs]
  · intro hno
    obtain ⟨hblank, hbreaks⟩ := not_or.mp hno
    have hr : a.rest.isBlank = false := Bool.not_eq_true _ ▸ hblank
    obtain ⟨k, hk⟩ := Text.exists_hasLeadingBreaks a.rest
    have hlt : k < 2 := Nat.not_le.mp (hk.startsWithBreaks_iff.not.mp hbreaks)
    exact ⟨k, lacksBreaks_of_not_spaced ha hp hr hk hlt⟩

/-- A line comment is followed by a pair and by a carriage return alone, which
does not count, in a text of the other convention. -/
theorem blankLine_exact_lineComment :
    let r := yearRule "2017".toList "(c) 2017".toList
    let t : Text := "#!/bin/sh\n// (c) 2017\r\n\rfoo();".toList
    let c : Comment := ⟨.line, 10, 21⟩
    r.verdict? t = some (.valid c) ∧ diagnoseBlankLine? t c ≠ some none ∧
      ∃ rest body k, t.from? c.stop = some rest ∧ t.Finds c body ∧
        LacksBreaks r t c rest body k := by
  intro r t c
  have h : r.verdict? t = some (.valid c) := by decide
  have hreported : diagnoseBlankLine? t c ≠ some none := by decide
  obtain ⟨rest, body, hrest, hfinds, hexact, hlacks⟩ := blankLine_exact h
  obtain ⟨k, hk⟩ := hlacks (hexact.not.mp hreported)
  exact ⟨h, hreported, rest, body, k, hrest, hfinds, hk⟩

end BlankLine

end HeaderCheck
