/-
# One pass

A pass makes one of three edits, and each gives a text whose parts are known
again: a header is inserted into a bare text, a header takes the place of a
rejected comment, or line breaks are put behind an accepted one.  The front
and the gap stay as they were, except that an interpreter line without a
line feed gets one.

So the next check needs no second scan: `Sound` is kept by every edit
(`sound_inserted`, `Sound.withHeader`, `Sound.spaced`), and the equations for
the check apply again.
-/
import HeaderCheck.Proofs.Anatomy

namespace HeaderCheck

/-! ## The three edits -/

namespace Anatomy

/-- The text with the header for a template in place of its comment. -/
def withHeader (a : Anatomy) (template : Text) : Anatomy :=
  { a with comment := header template (LineEnding.detect a.text) }

/-- The text with the line breaks that its comment lacks. -/
def spaced (a : Anatomy) : Anatomy :=
  { a with
    rest := (LineEnding.detect a.text).mark.times (breaksAfterHeader - a.breaks) ++ a.rest }

end Anatomy

/-- What an inserted header starts with: a line ending, if the front has an
open line. -/
def insertionLead (front rest : Text) : Text :=
  if front.hasOpenLine then (LineEnding.detect (front ++ rest)).mark else []

/-- A bare text with the header for a template. -/
def inserted (front rest template : Text) : Anatomy :=
  let ending := LineEnding.detect (front ++ rest)
  { front := front ++ insertionLead front rest
    gap := []
    comment := header template ending
    rest := ending.mark.times breaksAfterHeader ++ rest }

/-! ## Their results are sound -/

/-- Line breaks end a line comment where it ended before, and there are none
to put behind a block that was not closed. -/
theorem Written.Fits.times {w : Written} {rest : Text} (h : w.Fits rest) (hr : rest ≠ [])
    (ending : LineEnding) (n : Nat) : w.Fits (ending.mark.times n ++ rest) := by
  cases w with
  | line b =>
      refine ⟨h.1, ?_⟩
      cases n with
      | zero => exact h.2
      | succ n =>
          rw [Text.times_succ]
          cases ending <;> simp [LineEnding.mark, isLineBreak]
  | closed b => exact h
  | unclosed b => exact absurd h.2 hr

namespace Anatomy

/-- The front of a text with a comment has no open line. -/
theorem Sound.hasOpenLine_front {a : Anatomy} (h : a.Sound) : a.front.hasOpenLine = false := by
  cases hl : a.front.hasOpenLine with
  | false => rfl
  | true =>
      obtain ⟨hrest, -⟩ := h.front.endLine hl
      obtain ⟨t, ht⟩ := a.comment.text_eq_cons
      rw [ht] at hrest
      exact absurd hrest (by simp)

/-- Any comment may stand behind the same front and gap. -/
theorem Sound.exchange {a : Anatomy} (h : a.Sound) {w : Written} {rest : Text}
    (hw : w.Fits rest) : Sound { a with comment := w, rest } where
  front := by
    obtain ⟨t, ht⟩ := w.text_eq_cons
    show Text.IsFront a.front (a.gap ++ (w.text ++ rest))
    rw [ht]
    exact h.front.keep h.blank h.hasOpenLine_front (t ++ rest)
  blank := h.blank
  fits := hw

theorem Sound.withHeader {a : Anatomy} (h : a.Sound) {template : Text}
    (ht : Text.includes closingMark template = false) : (a.withHeader template).Sound :=
  h.exchange (header_fits ht _ _)

theorem fits_spaced {a : Anatomy} (h : a.comment.Fits a.rest) (hs : ¬ a.Spaced) :
    a.comment.Fits a.spaced.rest := by
  have hrest : a.rest ≠ [] := fun hnil => hs (Or.inl (by rw [hnil]; rfl))
  exact h.times hrest _ _

theorem Sound.spaced {a : Anatomy} (h : a.Sound) (hs : ¬ a.Spaced) : a.spaced.Sound :=
  h.exchange (fits_spaced h.fits hs)

end Anatomy

theorem sound_inserted {front rest template : Text} (h : Bare front rest)
    (ht : Text.includes closingMark template = false) : (inserted front rest template).Sound where
  front := by
    show Text.IsFront (front ++ insertionLead front rest) ([] ++ _)
    cases hl : front.hasOpenLine with
    | false =>
        rw [insertionLead, hl, if_neg Bool.false_ne_true, List.append_nil]
        exact Text.IsFront.keep (by exact h.front) (by simp) hl _
    | true =>
        obtain ⟨rfl, hn, hfront⟩ := h.front.endLine hl
        rw [insertionLead, hl, if_pos rfl, List.append_nil, LineEnding.detect_of_not_mem hn]
        exact hfront _
  blank := by simp [inserted]
  fits := header_fits ht _ _

/-! ## What they leave -/

namespace Anatomy

/-- A header in place of a comment leaves the convention of the text what it
was, so a second one would be the same. -/
theorem detect_withHeader (a : Anatomy) (template : Text) :
    LineEnding.detect (a.withHeader template).text = LineEnding.detect a.text := by
  obtain ⟨t, ht⟩ := header_text_append template (LineEnding.detect a.text) a.rest
  have hold : a.text = (a.front ++ a.gap) ++ (a.comment.text ++ a.rest) := by
    rw [text, List.append_assoc]
  have hnew : (a.withHeader template).text =
      (a.front ++ a.gap) ++ '/' :: '*' :: ((LineEnding.detect a.text).mark ++ t) := by
    rw [← ht, List.append_assoc]
    rfl
  rw [hnew, hold]
  exact LineEnding.detect_replace _ _ _

theorem withHeader_withHeader (a : Anatomy) (template : Text) :
    (a.withHeader template).withHeader template = a.withHeader template := by
  show { a with comment := header template (LineEnding.detect (a.withHeader template).text) } = _
  rw [detect_withHeader]
  rfl

theorem spaced_spaced (a : Anatomy) : a.spaced.Spaced :=
  Or.inr (Text.leadingBreaks_missing _ _ _)

end Anatomy

theorem spaced_inserted (front rest template : Text) : (inserted front rest template).Spaced := by
  refine Or.inr ?_
  exact Text.leadingBreaks_times (LineEnding.detect (front ++ rest)) breaksAfterHeader 0 rest

/-! ## The fixes make these edits -/

theorem edit?_insertion_header (front rest template : Text) :
    (Fix.insertion (Text.width front) (insertionLead front rest ++
        renderBlock template (LineEnding.detect (front ++ rest)) breaksAfterHeader)).edit?
      (front ++ rest) = some (inserted front rest template).text := by
  rw [Text.edit?_insertion, renderBlock_eq]
  simp only [Anatomy.text, inserted, List.append_assoc, List.nil_append]

namespace Anatomy

/-- An edit of the comment exchanges it. -/
theorem edit?_span (a : Anatomy) (new : Text) :
    Fix.edit? ⟨a.span.start, a.span.stop, new⟩ a.text =
      some (a.front ++ a.gap ++ new ++ a.rest) := by
  have he := Text.edit?_width (a.front ++ a.gap) a.comment.text a.rest new
  simp only [Text.width_append] at he
  rw [a.text_eq]
  exact he

/-- An insertion at the end of the comment goes between it and the rest. -/
theorem edit?_span_stop (a : Anatomy) (new : Text) :
    (Fix.insertion a.span.stop new).edit? a.text =
      some (a.front ++ a.gap ++ a.comment.text ++ new ++ a.rest) := by
  have he := Text.edit?_insertion (a.front ++ a.gap ++ a.comment.text) a.rest new
  simp only [Text.width_append] at he
  rw [a.text_eq]
  exact he

theorem edit?_replaceComment (a : Anatomy) (template : Text) :
    (replaceComment a.text a.span template).edit? a.text = some (a.withHeader template).text := by
  rw [replaceComment, edit?_span, renderBlock_zero, (a.withHeader template).text_eq]
  rfl

theorem edit?_spacing (a : Anatomy) : a.spacing.edit? a.text = some a.spaced.text := by
  rw [spacing, edit?_span_stop, a.spaced.text_eq, List.append_assoc _ _ a.rest]
  rfl

end Anatomy

/-! ## The outcome of a pass -/

section Pass

variable {a : Anatomy} {front rest : Text}

theorem pass_bare (h : Bare front rest) (r : Rule) :
    r.pass (front ++ rest) =
      match r.template with
      | none => .stuck
      | some τ => .changed (inserted front rest τ).text := by
  rw [Rule.pass, check_bare h]
  cases r.template with
  | none => rfl
  | some τ =>
      have he := edit?_insertion_header front rest τ
      rw [insertionLead] at he
      simp only [Diagnostic.at, Option.map_some, Option.bind_some, he]

theorem pass_mismatched (h : a.Sound) {r : Rule} (hp : r.pattern.accepts a.comment.body = false) :
    r.pass a.text =
      match r.template with
      | none => .stuck
      | some τ => .changed (a.withHeader τ).text := by
  rw [Rule.pass, check_mismatched h hp]
  cases r.template with
  | none => rfl
  | some τ => simp only [Diagnostic.at, Option.map_some, Option.bind_some, a.edit?_replaceComment]

theorem pass_valid (h : a.Sound) {r : Rule} (hp : r.pattern.accepts a.comment.body = true) :
    r.pass a.text =
      if r.blankLine = true ∧ ¬ a.Spaced then .changed a.spaced.text else .clean := by
  rw [Rule.pass, check_valid h hp]
  by_cases hs : r.blankLine = true ∧ ¬ a.Spaced
  · rw [if_pos hs, if_pos hs]
    simp only [Diagnostic.at, Option.bind_some, a.edit?_spacing]
  · rw [if_neg hs, if_neg hs]

/-- An accepted comment with its blank line is clean, whatever the rule asks
for. -/
theorem pass_spaced (h : a.Sound) {r : Rule} (hp : r.pattern.accepts a.comment.body = true)
    (hs : a.Spaced) : r.pass a.text = .clean := by
  rw [pass_valid h hp, if_neg fun hc => hc.2 hs]

/-- A pass that changes a text makes one of the three edits. -/
theorem cases_of_pass {r : Rule} {t u : Text} (h : r.pass t = .changed u) :
    (∃ a : Anatomy, a.Sound ∧ ¬ a.Spaced ∧ t = a.text ∧ u = a.spaced.text) ∨
      (∃ (a : Anatomy) (τ : Text), a.Sound ∧ τ ∈ r.template ∧ t = a.text ∧
        u = (a.withHeader τ).text) ∨
      ∃ front rest τ : Text, Bare front rest ∧ τ ∈ r.template ∧ t = front ++ rest ∧
        u = (inserted front rest τ).text := by
  rcases exists_anatomy t with ⟨a, ha, rfl⟩ | ⟨front, rest, hb, rfl⟩
  · cases hp : r.pattern.accepts a.comment.body with
    | true =>
        rw [pass_valid ha hp] at h
        split at h
        next hs =>
          cases h
          exact Or.inl ⟨a, ha, hs.2, rfl, rfl⟩
        next => cases h
    | false =>
        rw [pass_mismatched ha hp] at h
        split at h
        next => cases h
        next τ hτ =>
          cases h
          exact Or.inr (Or.inl ⟨a, τ, ha, hτ, rfl, rfl⟩)
  · rw [pass_bare hb] at h
    split at h
    next => cases h
    next τ hτ =>
      cases h
      exact Or.inr (Or.inr ⟨front, rest, τ, hb, hτ, rfl, rfl⟩)

/-- The edits that a pass can make. -/
inductive Rule.Edits (r : Rule) : Text → Text → Prop
  | spaced {a : Anatomy} : a.Sound → r.Edits a.text a.spaced.text
  | replaced {a : Anatomy} {template : Text} : a.Sound → template ∈ r.template →
      r.Edits a.text (a.withHeader template).text
  | inserted {front rest template : Text} : Bare front rest → template ∈ r.template →
      r.Edits (front ++ rest) (inserted front rest template).text

theorem edits_of_pass {r : Rule} {t u : Text} (h : r.pass t = .changed u) : r.Edits t u := by
  rcases cases_of_pass h with ⟨a, ha, -, rfl, rfl⟩ | ⟨a, τ, ha, hτ, rfl, rfl⟩ |
    ⟨front, rest, τ, hb, hτ, rfl, rfl⟩
  · exact .spaced ha
  · exact .replaced ha hτ
  · exact .inserted hb hτ

end Pass

end HeaderCheck
