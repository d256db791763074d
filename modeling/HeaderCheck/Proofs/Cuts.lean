/-
# Where a check cuts a text

An offset is a place of a text when the text falls into two parts there,
and a range is one when both its ends are places, in order (`IsRange`).
Those are exactly the ranges that have a slice (`exists_slice?_iff`), so
there is one question about safety only: are all the ranges that a check
takes ranges of the text?

`Takes` lists them, stage by stage, with the offsets as the stages compute
them: by adding the widths of what was read, or of a mark of two characters,
to an offset that was a place before.  Each of the sums is again the width
of a beginning of the text, and that is the whole proof (`Takes.isRange`).

The same holds of the ranges that the fixes replace, and with it a fix can be
applied, to a text of the length that its replacement leads one to expect
(`Applies`).  For a missing header, what lies between the place that is
reported and the range that is replaced is nothing but a gap.
-/
import HeaderCheck.Proofs.Pass

namespace HeaderCheck

namespace Text

/-! ## Places and ranges -/

/-- The text falls into two parts at an offset. -/
def IsPlace (t : Text) (n : Nat) : Prop :=
  ∃ before after, t = before ++ after ∧ width before = n

theorem isPlace_width (before after : Text) : (before ++ after).IsPlace (width before) :=
  ⟨before, after, rfl, rfl⟩

theorem isPlace_end (t : Text) : t.IsPlace (width t) :=
  ⟨t, [], (List.append_nil t).symm, rfl⟩

theorem IsPlace.le_width {t : Text} {n : Nat} (h : t.IsPlace n) : n ≤ width t := by
  obtain ⟨before, after, rfl, rfl⟩ := h
  rw [width_append]
  exact Nat.le_add_right _ _

theorem isSome_cut?_iff {t : Text} {n : Nat} : (t.cut? n).isSome = true ↔ t.IsPlace n := by
  rw [Option.isSome_iff_exists]
  constructor
  · rintro ⟨⟨before, after⟩, h⟩
    exact ⟨before, after, cut?_eq_some_iff.mp h⟩
  · rintro ⟨before, after, h⟩
    exact ⟨(before, after), cut?_eq_some_iff.mpr h⟩

instance (t : Text) (n : Nat) : Decidable (t.IsPlace n) :=
  decidable_of_iff _ isSome_cut?_iff

/-- Behind a mark and an ideographic space there is a place, and inside the
space there is none. -/
example : IsPlace "\uFEFF\u3000// é".toList 6 ∧ ¬ IsPlace "\uFEFF\u3000// é".toList 5 := by
  decide

/-- Two places of a text, in order. -/
structure IsRange (t : Text) (start stop : Nat) : Prop where
  le : start ≤ stop
  start : t.IsPlace start
  stop : t.IsPlace stop

theorem isRange_width (a b c : Text) : (a ++ b ++ c).IsRange (width a) (width (a ++ b)) where
  le := by
    rw [width_append]
    exact Nat.le_add_right _ _
  start := by
    rw [List.append_assoc]
    exact isPlace_width a (b ++ c)
  stop := isPlace_width (a ++ b) c

/-- A range is the middle part of the text. -/
theorem IsRange.exists_parts {t : Text} {i j : Nat} (h : t.IsRange i j) :
    ∃ a b c, t = a ++ b ++ c ∧ i = width a ∧ j = width (a ++ b) := by
  obtain ⟨hle, ⟨a, b, hab, rfl⟩, ⟨u, v, huv, rfl⟩⟩ := h
  rcases List.append_eq_append_iff.mp (hab.symm.trans huv) with ⟨x, rfl, rfl⟩ | ⟨x, rfl, rfl⟩
  · exact ⟨a, x, v, huv, rfl, rfl⟩
  · -- the start lies behind the stop by `x`, which is therefore empty
    obtain rfl : x = [] := by
      rw [width_append] at hle
      exact width_eq_zero_iff.mp (by omega)
    exact ⟨u, [], b, by simpa using huv, by simp, by simp⟩

/-- The ranges of a text are those that it has a slice at. -/
theorem exists_slice?_iff {t : Text} {i j : Nat} :
    (∃ s, t.slice? i j = some s) ↔ t.IsRange i j := by
  constructor
  · rintro ⟨s, h⟩
    rw [slice?] at h
    split at h
    next hle =>
      obtain ⟨u, hu, hs⟩ := Option.bind_eq_some_iff.mp h
      obtain ⟨v, rfl, rfl⟩ := upTo?_eq_some_iff.mp hu
      obtain ⟨a, rfl, rfl⟩ := from?_eq_some_iff.mp hs
      exact ⟨hle, (isRange_width a s v).start, isPlace_width (a ++ s) v⟩
    next => cases h
  · intro h
    obtain ⟨a, b, c, rfl, rfl, rfl⟩ := h.exists_parts
    exact ⟨b, slice?_width a b c⟩

/-! ## The ranges that a check takes -/

/-- The ranges at which the stages of a check slice the text, whatever the
rule: behind the mark and the two characters of an interpreter line, to find
the place of the header; from there, behind the gap, and behind the opening
mark of a block, to find the comment; within the comment and before it, for
the verdict; before the place of the header and behind the comment, for the
diagnostic. -/
inductive Takes (t : Text) : (start stop : Nat) → Prop
  | afterMark : Takes t (width t.splitMark.1) (width t)
  | afterHash {line : Text} : t.splitMark.2 = '#' :: '!' :: line →
      Takes t (width t.splitMark.1 + 2) (width t)
  | fromHeader : Takes t t.headerStart (width t)
  | afterGap : Takes t (t.headerStart + width (t.afterOpening.takeWhile isGap)) (width t)
  | afterOpener {body : Text} : t.afterOpening.dropWhile isGap = '/' :: '*' :: body →
      Takes t (t.headerStart + width (t.afterOpening.takeWhile isGap) + 2) (width t)
  | inner {c : Comment} : Comment.locate? t t.headerStart = some (some c) →
      Takes t (c.start + 2) c.stop
  | gap {c : Comment} : Comment.locate? t t.headerStart = some (some c) →
      Takes t t.headerStart c.start
  | beforeHeader : Takes t 0 t.headerStart
  | afterComment {c : Comment} : Comment.locate? t t.headerStart = some (some c) →
      Takes t c.stop (width t)

theorem isRange_tail (a b : Text) : (a ++ b).IsRange (width a) (width (a ++ b)) where
  le := (isPlace_width a b).le_width
  start := isPlace_width a b
  stop := isPlace_end (a ++ b)

/-- A text from the width of a beginning on. -/
theorem IsRange.of_tail {t a b : Text} {i : Nat} (ht : t = a ++ b) (hi : width a = i) :
    t.IsRange i (width t) := by
  subst ht hi
  exact isRange_tail a b

theorem IsRange.of_middle {t a b c : Text} {i j : Nat} (ht : t = a ++ b ++ c)
    (hi : width a = i) (hj : width (a ++ b) = j) : t.IsRange i j := by
  subst ht hi hj
  exact isRange_width a b c

end Text

/-- A comment that the scanner finds is that of an anatomy. -/
theorem exists_anatomy_of_locate? {t : Text} {c : Comment}
    (h : Comment.locate? t t.headerStart = some (some c)) :
    ∃ a : Anatomy, a.Sound ∧ t = a.text ∧ c = a.span := by
  rcases exists_anatomy t with ⟨a, ha, rfl⟩ | ⟨front, rest, hb, rfl⟩
  · rw [ha.locate?_eq] at h
    exact ⟨a, ha, rfl, (Option.some.inj (Option.some.inj h)).symm⟩
  · rw [hb.locate?_eq] at h
    cases h

/-- Every range that a check takes is one of the text. -/
theorem Text.Takes.isRange {t : Text} {i j : Nat} (h : t.Takes i j) : t.IsRange i j := by
  have hopening := t.opening_append
  have hgap : t = t.opening ++ t.afterOpening.takeWhile isGap ++
      t.afterOpening.dropWhile isGap := by
    rw [List.append_assoc, List.takeWhile_append_dropWhile, hopening]
  cases h with
  | afterMark => exact .of_tail t.splitMark_append.symm rfl
  | @afterHash line hline =>
      have hmark := t.splitMark_append
      rw [hline] at hmark
      refine .of_tail (a := t.splitMark.1 ++ ['#', '!']) (b := line) ?_ (by rw [width_append]; rfl)
      rw [List.append_assoc]
      exact hmark.symm
  | fromHeader => exact .of_tail hopening.symm rfl
  | afterGap => exact .of_tail hgap (by rw [width_append, headerStart])
  | @afterOpener body hbody =>
      rw [hbody] at hgap
      refine .of_tail (a := t.opening ++ t.afterOpening.takeWhile isGap ++ ['/', '*']) (b := body)
        ?_ ?_
      · rw [List.append_assoc _ ['/', '*'] body]
        exact hgap
      · rw [width_append, width_append, headerStart]
        rfl
  | beforeHeader =>
      exact .of_middle (a := []) (b := t.opening) hopening.symm rfl rfl
  | inner hc =>
      obtain ⟨a, -, rfl, rfl⟩ := exists_anatomy_of_locate? hc
      refine .of_middle (a := a.front ++ a.gap ++ a.comment.opener)
        (b := a.comment.body ++ a.comment.closer) (c := a.rest) ?_ ?_ ?_
      · rw [a.text_eq, Written.text]
        simp only [List.append_assoc]
      · rw [width_append, Written.width_opener, a.span_start]
      · rw [a.span_stop, Written.text]
        simp only [List.append_assoc]
  | gap hc =>
      obtain ⟨a, ha, rfl, rfl⟩ := exists_anatomy_of_locate? hc
      rw [ha.headerStart_eq]
      refine .of_middle (b := a.gap) (c := a.comment.text ++ a.rest) ?_ rfl a.span_start.symm
      rw [a.text_eq, List.append_assoc]
  | afterComment hc =>
      obtain ⟨a, -, rfl, rfl⟩ := exists_anatomy_of_locate? hc
      exact .of_tail a.text_eq a.span_stop.symm

/-! ## The fixes -/

/-- A fix that a diagnostic offers can be applied to the text: its range
lies in the text, behind the place that is reported, and the edited text has
the length that the range and the replacement add up to. -/
structure Diagnostic.Applies (d : Diagnostic) (f : Fix) (t : Text) : Prop where
  after : d.start ≤ f.start
  range : t.IsRange f.start f.stop
  within : f.stop ≤ Text.width t
  edit : ∃ u, f.edit? t = some u ∧
    Text.width u = Text.width t - (f.stop - f.start) + Text.width f.replacement
  /-- Only a gap separates the range from the place of a missing header. -/
  gap : d.finding = .missingHeader →
    ∃ gap, t.slice? d.start f.start = some gap ∧ ∀ c ∈ gap, isGap c = true

/-- An edit of a middle part, reported before a gap in front of it. -/
theorem applies_of_parts {d : Diagnostic} {front gap old rest new : Text}
    (hd : d.start = Text.width front) (hg : ∀ c ∈ gap, isGap c = true) :
    d.Applies ⟨Text.width (front ++ gap), Text.width (front ++ gap ++ old), new⟩
      (front ++ gap ++ old ++ rest) where
  after := by
    rw [hd, Text.width_append]
    exact Nat.le_add_right _ _
  range := Text.isRange_width (front ++ gap) old rest
  within := (Text.isRange_width (front ++ gap) old rest).stop.le_width
  edit := by
    refine ⟨_, Text.edit?_width (front ++ gap) old rest new, ?_⟩
    simp only [Text.width_append]
    omega
  gap := fun _ => by
    refine ⟨gap, ?_, hg⟩
    rw [hd, List.append_assoc]
    exact Text.slice?_width front gap (old ++ rest)

theorem applies_insertion {d : Diagnostic} {front rest new : Text}
    (hd : d.start = Text.width front) :
    d.Applies (.insertion (Text.width front) new) (front ++ rest) := by
  have h := @applies_of_parts d front [] [] rest new hd (by simp)
  simp only [List.append_nil] at h
  exact h

namespace Anatomy

theorem applies_at_stop (a : Anatomy) {d : Diagnostic} {new : Text} (hd : d.start = a.span.stop) :
    d.Applies (.insertion a.span.stop new) a.text := by
  rw [a.span_stop] at hd ⊢
  rw [a.text_eq]
  exact applies_insertion hd

theorem applies_at_comment (a : Anatomy) {d : Diagnostic} {new : Text}
    (hg : ∀ c ∈ a.gap, isGap c = true) (hd : d.start = Text.width a.front) :
    d.Applies ⟨a.span.start, a.span.stop, new⟩ a.text := by
  rw [a.span_start, a.span_stop, a.text_eq]
  exact applies_of_parts hd hg

end Anatomy

/-- Whatever the rule, a fix that a check offers fits the text. -/
theorem applies_of_check {r : Rule} {t : Text} {d : Diagnostic} {f : Fix}
    (hd : r.check t = some d) (hf : d.fix = some f) : d.Applies f t := by
  cases reports_of_check hd with
  | @unspaced a =>
      obtain rfl := Option.some.inj hf
      exact a.applies_at_stop rfl
  | @mismatched a ha =>
      obtain ⟨τ, -, rfl⟩ := Option.map_eq_some_iff.mp hf
      exact a.applies_at_comment ha.blank rfl
  | missing =>
      obtain ⟨τ, -, rfl⟩ := Option.map_eq_some_iff.mp hf
      exact applies_insertion rfl

/-- **A check never cuts a text where it cannot be cut**, so it always has
an answer, **and every fix that it offers can be applied.** -/
theorem check_cuts_in_range (r : Rule) (t : Text) :
    (∀ i j, t.Takes i j → t.IsRange i j ∧ ∃ s, t.slice? i j = some s) ∧
      r.examine? t = some (r.check t) ∧
      ∀ d f, r.check t = some d → d.fix = some f → d.Applies f t := by
  refine ⟨fun i j h => ?_, r.examine?_eq_some_check t, fun d f => applies_of_check⟩
  exact ⟨h.isRange, Text.exists_slice?_iff.mpr h.isRange⟩

end HeaderCheck
