/-
# The check of a text, by its parts

Either a comment stands in the place of a header or nothing does.  In the
first case the text is a front, a gap, a comment and a rest (`Anatomy`), in
the second a front and a rest in which the scanner finds nothing (`Bare`),
and every text is one of the two (`exists_anatomy`).

The check of a text depends on its parts only, and three equations say how:
`check_bare`, `check_mismatched` and `check_valid`.  Read the other way they
are all that a check can report (`reports_of_check`).  Everything about
offsets ends here: no stage ever cuts the text where it cannot be cut
(`Rule.examine?_eq_some_check`).  The stages up to the verdict do not need
the front to be an opening, and their equations hold behind any front
(`Scanned`): the verdict `mismatched` always comes with a gap before the
comment.
-/
import HeaderCheck.Rule
import HeaderCheck.Proofs.Layout
import HeaderCheck.Proofs.Render

namespace HeaderCheck

/-- A text with a comment in the place of its header. -/
structure Anatomy where
  front : Text
  gap : Text
  comment : Written
  rest : Text
deriving DecidableEq, Repr

namespace Anatomy

def text (a : Anatomy) : Text :=
  a.front ++ (a.gap ++ (a.comment.text ++ a.rest))

/-- The text, cut at the ends of its comment. -/
theorem text_eq (a : Anatomy) : a.text = (a.front ++ a.gap) ++ a.comment.text ++ a.rest := by
  simp only [text, List.append_assoc]

/-- The comment as the scanner reports it. -/
def span (a : Anatomy) : Comment :=
  a.comment.span (Text.width a.front + Text.width a.gap)

theorem span_start (a : Anatomy) : a.span.start = Text.width (a.front ++ a.gap) :=
  (Text.width_append ..).symm

theorem span_stop (a : Anatomy) :
    a.span.stop = Text.width (a.front ++ a.gap ++ a.comment.text) := by
  rw [Text.width_append, Text.width_append]
  rfl

theorem from?_stop (a : Anatomy) : a.text.from? a.span.stop = some a.rest := by
  have hfrom := Text.from?_width (a.front ++ a.gap ++ a.comment.text) a.rest
  rw [Text.width_append, Text.width_append] at hfrom
  rw [text_eq]
  exact hfrom

/-- A comment behind a gap, whatever stands in front of the two: what a scan
from the end of the front steps over and finds. -/
structure Scanned (a : Anatomy) : Prop where
  blank : ∀ c ∈ a.gap, isGap c = true
  fits : a.comment.Fits a.rest

/-- Each part is what the scanner takes it for. -/
structure Sound (a : Anatomy) : Prop where
  front : Text.IsFront a.front (a.gap ++ (a.comment.text ++ a.rest))
  blank : ∀ c ∈ a.gap, isGap c = true
  fits : a.comment.Fits a.rest

theorem Sound.scanned {a : Anatomy} (h : a.Sound) : a.Scanned :=
  ⟨h.blank, h.fits⟩

end Anatomy

/-- A front and a rest with no comment in the place of a header. -/
structure Bare (front rest : Text) : Prop where
  front : Text.IsFront front rest
  commentless : Text.opensWith? (rest.dropWhile isGap) = none

theorem exists_anatomy (t : Text) :
    (∃ a : Anatomy, a.Sound ∧ t = a.text) ∨ ∃ front rest, Bare front rest ∧ t = front ++ rest := by
  have hfront := Text.isFront_opening t
  have htext := Text.opening_append t
  have hrest := @List.takeWhile_append_dropWhile _ isGap t.afterOpening
  cases hp : Text.opensWith? (t.afterOpening.dropWhile isGap) with
  | none => exact Or.inr ⟨t.opening, t.afterOpening, ⟨hfront, hp⟩, htext.symm⟩
  | some p =>
      obtain ⟨w, rest, hw, hfits⟩ := Text.exists_written hp
      rw [hw] at hrest
      refine Or.inl ⟨⟨t.opening, t.afterOpening.takeWhile isGap, w, rest⟩, ⟨?_, ?_, hfits⟩, ?_⟩
      · rw [hrest]
        exact hfront
      · exact fun _ hc => List.mem_takeWhile_imp hc
      · rw [Anatomy.text, hrest, htext]

/-! ## The stages -/

/-- The verdict on the comment found for a header. -/
def Rule.verdict? (r : Rule) (t : Text) : Option Verdict :=
  (Comment.locate? t t.headerStart).bind (Verdict.of? r.pattern t t.headerStart)

theorem Rule.examine?_eq (r : Rule) (t : Text) :
    r.examine? t = (r.verdict? t).bind (r.judge? t t.headerStart) := by
  rw [Rule.examine?, Rule.verdict?, Option.bind_assoc]
  rfl

namespace Anatomy.Scanned

variable {a : Anatomy}

theorem locate?_eq (h : a.Scanned) :
    Comment.locate? a.text (Text.width a.front) = some (some a.span) := by
  rw [text, locate?_written h.blank h.fits, span]

theorem inner?_eq (h : a.Scanned) : a.span.inner? a.text = some a.comment.body := by
  have hin := a.comment.inner?_span (a.front ++ a.gap) h.fits
  rw [Text.width_append] at hin
  rw [text_eq]
  exact hin

theorem isGapBetween_eq (h : a.Scanned) :
    a.text.isGapBetween (Text.width a.front) a.span.start = true := by
  have hslice := Text.slice?_width a.front a.gap (a.comment.text ++ a.rest)
  rw [Text.width_append, List.append_assoc] at hslice
  rw [Text.isGapBetween, text, span, Written.span, hslice]
  exact List.all_eq_true.mpr h.blank

theorem of?_eq (h : a.Scanned) (p : Pattern) :
    Verdict.of? p a.text (Text.width a.front) (some a.span) = some
      (if p.accepts a.comment.body then .valid a.span else .mismatched a.span true) := by
  rw [Verdict.of?, h.inner?_eq, Option.map_some, h.isGapBetween_eq]

end Anatomy.Scanned

namespace Anatomy.Sound

variable {a : Anatomy}

theorem headerStart_eq (h : a.Sound) : a.text.headerStart = Text.width a.front := by
  rw [Text.headerStart, text, h.front.opening_eq]

theorem locate?_eq (h : a.Sound) :
    Comment.locate? a.text a.text.headerStart = some (some a.span) := by
  rw [h.headerStart_eq, h.scanned.locate?_eq]

theorem inner?_eq (h : a.Sound) : a.span.inner? a.text = some a.comment.body :=
  h.scanned.inner?_eq

theorem verdict?_eq (h : a.Sound) (r : Rule) :
    r.verdict? a.text = some
      (if r.pattern.accepts a.comment.body then .valid a.span else .mismatched a.span true) := by
  rw [Rule.verdict?, h.locate?_eq, Option.bind_some, h.headerStart_eq, h.scanned.of?_eq]

end Anatomy.Sound

namespace Bare

variable {front rest : Text}

theorem headerStart_eq (h : Bare front rest) : (front ++ rest).headerStart = Text.width front := by
  rw [Text.headerStart, h.front.opening_eq]

theorem locate?_eq (h : Bare front rest) :
    Comment.locate? (front ++ rest) (front ++ rest).headerStart = some none := by
  rw [h.headerStart_eq, Comment.locate?, Text.from?_width, Option.map_some, h.commentless,
    Option.map_none]

theorem verdict?_eq (h : Bare front rest) (r : Rule) :
    r.verdict? (front ++ rest) = some .missing := by
  rw [Rule.verdict?, h.locate?_eq, Option.bind_some, Verdict.of?]

end Bare

/-- The verdicts that there are, each with the parts of its text. -/
theorem Rule.verdict?_cases (r : Rule) (t : Text) :
    (∃ a : Anatomy, a.Sound ∧ r.pattern.accepts a.comment.body = true ∧ t = a.text ∧
        r.verdict? t = some (.valid a.span)) ∨
      (∃ a : Anatomy, a.Sound ∧ r.pattern.accepts a.comment.body = false ∧ t = a.text ∧
        r.verdict? t = some (.mismatched a.span true)) ∨
      ∃ front rest, Bare front rest ∧ t = front ++ rest ∧ r.verdict? t = some .missing := by
  rcases exists_anatomy t with ⟨a, ha, rfl⟩ | ⟨front, rest, hb, rfl⟩
  · have hv := ha.verdict?_eq r
    cases hp : r.pattern.accepts a.comment.body with
    | true =>
        rw [hp, if_pos rfl] at hv
        exact Or.inl ⟨a, ha, hp, rfl, hv⟩
    | false =>
        rw [hp, if_neg Bool.false_ne_true] at hv
        exact Or.inr (Or.inl ⟨a, ha, hp, rfl, hv⟩)
  · exact Or.inr (Or.inr ⟨front, rest, hb, rfl, hb.verdict?_eq r⟩)

/-! ## Every text has an answer -/

/-- The stages after the verdict cut the text at two offsets only. -/
theorem Rule.exists_judge?_eq_some (r : Rule) {t before : Text} {offset : Nat} {v : Verdict}
    (hb : t.upTo? offset = some before)
    (hv : ∀ c, v = .valid c → ∃ rest, t.from? c.stop = some rest) :
    ∃ o, r.judge? t offset v = some o := by
  cases v with
  | valid c =>
      obtain ⟨rest, hrest⟩ := hv c rfl
      cases hblank : r.blankLine <;> simp [judge?, diagnose?, diagnoseBlankLine?, hblank, hrest]
  | missing =>
      cases hτ : r.template <;> simp [judge?, diagnose?, headerFix?, insertHeader?, hτ, hb]
  | mismatched c afterGap =>
      cases hτ : r.template <;> cases afterGap <;>
        simp [judge?, diagnose?, headerFix?, insertHeader?, hτ, hb]

/-- The stages always have an answer, so a `check` that finds nothing means
that nothing is wrong. -/
theorem Rule.examine?_eq_some_check (r : Rule) (t : Text) :
    r.examine? t = some (r.check t) := by
  suffices hsome : ∃ o, r.examine? t = some o by
    obtain ⟨o, ho⟩ := hsome
    rw [check, ho, Option.join_some]
  rw [examine?_eq]
  rcases exists_anatomy t with ⟨a, ha, rfl⟩ | ⟨front, rest, hb, rfl⟩
  · rw [ha.verdict?_eq, Option.bind_some, ha.headerStart_eq]
    refine r.exists_judge?_eq_some (Text.upTo?_width _ _) fun c hc => ⟨a.rest, ?_⟩
    split at hc
    · obtain rfl := Verdict.valid.inj hc
      exact a.from?_stop
    · exact Verdict.noConfusion hc
  · rw [hb.verdict?_eq, Option.bind_some, hb.headerStart_eq]
    exact r.exists_judge?_eq_some (Text.upTo?_width _ _) fun c hc => Verdict.noConfusion hc

/-! ## The diagnostics -/

namespace Anatomy

/-- How many line breaks follow the comment, as far as they count. -/
def breaks (a : Anatomy) : Nat :=
  a.rest.leadingBreaks breaksAfterHeader

/-- The text after the comment satisfies a rule that asks for a blank
line. -/
def Spaced (a : Anatomy) : Prop :=
  a.rest.isBlank = true ∨ a.breaks = breaksAfterHeader

instance (a : Anatomy) : Decidable a.Spaced :=
  inferInstanceAs (Decidable (_ ∨ _))

/-- The fix that makes the blank line complete. -/
def spacing (a : Anatomy) : Fix :=
  .insertion a.span.stop ((LineEnding.detect a.text).mark.times (breaksAfterHeader - a.breaks))

/-- What the check of the blank line finds behind a comment. -/
theorem diagnoseBlankLine?_span (a : Anatomy) :
    diagnoseBlankLine? a.text a.span =
      some (if a.Spaced then none
        else some (.at .missingNewLine a.span.stop (some a.spacing))) := by
  rw [diagnoseBlankLine?, a.from?_stop, Option.map_some]
  by_cases hs : a.Spaced
  · have hs' := hs
    rw [Spaced, breaks] at hs'
    simp [hs, hs']
  · have hs' := hs
    rw [Spaced, breaks] at hs'
    simp [hs, hs', spacing, breaks]

end Anatomy

section Check

variable {a : Anatomy} {front rest : Text} {r : Rule}

/-- Where nothing stands, a header is missing. -/
theorem check_bare (h : Bare front rest) :
    r.check (front ++ rest) = some (.at .missingHeader (Text.width front)
      (r.template.map fun τ =>
        let ending := LineEnding.detect (front ++ rest)
        .insertion (Text.width front)
          ((if front.hasOpenLine then ending.mark else []) ++
            renderBlock τ ending breaksAfterHeader))) := by
  rw [Rule.check, Rule.examine?_eq, h.verdict?_eq, Option.bind_some, h.headerStart_eq]
  cases hτ : r.template with
  | none => simp [Rule.judge?, diagnose?, hτ]
  | some τ => simp [Rule.judge?, diagnose?, hτ, headerFix?, insertHeader?, Text.upTo?_width]

/-- A comment that the pattern rejects is to be replaced. -/
theorem check_mismatched (h : a.Sound) (hp : r.pattern.accepts a.comment.body = false) :
    r.check a.text = some (.at .missingHeader (Text.width a.front)
      (r.template.map fun τ => replaceComment a.text a.span τ)) := by
  rw [Rule.check, Rule.examine?_eq, h.verdict?_eq, Option.bind_some, h.headerStart_eq, hp]
  cases hτ : r.template <;> simp [Rule.judge?, diagnose?, hτ, headerFix?]

/-- A comment that the pattern accepts is left alone, up to the blank line
after it. -/
theorem check_valid (h : a.Sound) (hp : r.pattern.accepts a.comment.body = true) :
    r.check a.text =
      if r.blankLine = true ∧ ¬ a.Spaced then
        some (.at .missingNewLine a.span.stop (some a.spacing))
      else none := by
  rw [Rule.check, Rule.examine?_eq, h.verdict?_eq, Option.bind_some, h.headerStart_eq, hp,
    if_pos rfl]
  cases hb : r.blankLine with
  | false => simp [Rule.judge?, hb, diagnose?]
  | true =>
      simp only [Rule.judge?, hb, a.diagnoseBlankLine?_span, Option.join_some, true_and]
      by_cases hs : a.Spaced <;> simp [hs]

/-- What a check can report, each with the parts of the text. -/
inductive Rule.Reports (r : Rule) : Text → Diagnostic → Prop
  | unspaced {a : Anatomy} : a.Sound → r.pattern.accepts a.comment.body = true → ¬ a.Spaced →
      r.blankLine = true →
      r.Reports a.text (.at .missingNewLine a.span.stop (some a.spacing))
  | mismatched {a : Anatomy} : a.Sound → r.pattern.accepts a.comment.body = false →
      r.Reports a.text (.at .missingHeader (Text.width a.front)
        (r.template.map fun τ => replaceComment a.text a.span τ))
  | missing {front rest : Text} : Bare front rest →
      r.Reports (front ++ rest) (.at .missingHeader (Text.width front)
        (r.template.map fun τ =>
          let ending := LineEnding.detect (front ++ rest)
          .insertion (Text.width front)
            ((if front.hasOpenLine then ending.mark else []) ++
              renderBlock τ ending breaksAfterHeader)))

theorem reports_of_check {t : Text} {d : Diagnostic} (h : r.check t = some d) :
    r.Reports t d := by
  rcases exists_anatomy t with ⟨a, ha, rfl⟩ | ⟨front, rest, hb, rfl⟩
  · cases hp : r.pattern.accepts a.comment.body with
    | true =>
        rw [check_valid ha hp] at h
        split at h
        next hs =>
          obtain rfl := Option.some.inj h
          exact .unspaced ha hp hs.2 hs.1
        next => cases h
    | false =>
        rw [check_mismatched ha hp] at h
        obtain rfl := Option.some.inj h
        exact .mismatched ha hp
  · rw [check_bare hb] at h
    obtain rfl := Option.some.inj h
    exact .missing hb

end Check

end HeaderCheck
